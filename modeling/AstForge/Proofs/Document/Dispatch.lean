import AstForge.Proofs.Document.Reading
import AstForge.Proofs.Text.Snake

/-!
# Documents — the names of dispatch agree

In every document, the methods that the visitor declares, the methods that the nodes call and, in a
tagged union, the methods that the match calls are one list, with one method for each shape in the
order of the table (`dispatch_of_generate`).
-/

namespace AstForge

open Text Document

/-- The visit methods that a document declares, in order. -/
def Document.declaredMethods (target : Target) (doc : String) : List String :=
  (rows doc).filterMap (declaredMethod? target)

/-- The visit methods that the nodes of a document call, in order. -/
def Document.calledMethods (target : Target) (doc : String) : List String :=
  (rows doc).filterMap (calledMethod? target)

/-- The shapes for which a trait declares visit methods, with these methods. -/
def Document.methodShapes (doc : String) : List (String × String) :=
  (rows doc).filterMap declaredFor?

/-- The variants that the match on the base type names, with the methods that it calls. -/
def Document.matchArms (base doc : String) : List (String × String) :=
  (rows doc).filterMap (matchArm? base)

/-- Every visit method starts with `visit`. -/
def ResolvedTable.VisitNames (t : ResolvedTable) : Prop :=
  ∀ s ∈ t.shapes, ∃ rest : String, IsWord rest.toList ∧ s.visitMethod = "visit" ++ rest

/-- Every visit method of a well-formed table starts with `visit`. -/
theorem Table.WellFormed.visitNames_resolve {t : Table} (h : t.WellFormed) :
    t.resolve.VisitNames := by
  intro s hs
  obtain ⟨s, hmem, rfl⟩ := List.mem_map.mp hs
  refine ⟨s.name ++ t.base, ?_, ?_⟩
  · rw [String.toList_append]
    exact (h.words_resolve.shapes _ hs).name.append h.words_resolve.base
  · simp [Shape.resolve, visitMethodName, String.append_assoc]

/-- So does every visit method in snake case. -/
theorem ResolvedTable.VisitNames.snake {t : ResolvedTable} (h : t.VisitNames) {s : ResolvedShape}
    (hs : s ∈ t.shapes) :
    ∃ rest : String, IsWord rest.toList ∧ s.visitMethodSnake = "visit" ++ rest := by
  obtain ⟨rest, hrest, hvisit⟩ := h s hs
  refine ⟨_, ?_, by rw [ResolvedShape.visitMethodSnake, hvisit, toSnakeCase_visit]⟩
  rw [String.toList_ofList]
  exact isWord_snakeAfter hrest 't'

/-! ### What the dispatch rows say -/

variable {t : ResolvedTable} {s : ResolvedShape}

namespace ClassHierarchy

/-- A line of the interface declares its visit method and calls none. -/
theorem read_declarationLine
    (h : ∃ rest : String, IsWord rest.toList ∧ s.visitMethod = "visit" ++ rest) :
    declaredMethod? .java (declarationLine t s).bare = some s.visitMethod ∧
      calledMethod? .java (declarationLine t s).bare = none := by
  obtain ⟨rest, hrest, hs⟩ := h
  have htext : (declarationLine t s).bare = "R visit".toList ++
      (rest.toList ++ '(' :: (s.name ++ " " ++ t.visitorParameter ++ ");").toList) := by
    rw [Line.bare, declarationLine, dropReturn_toList_append _ (c := ';') (by decide) (by decide)]
    simp [hs]
  rw [htext]
  constructor
  · rw [declaredMethod?, declaredStart, scanName_append (hrest.notMem (by decide)), hs]
    rfl
  · rw [calledMethod?, scanName, calledStart, scan_eq_none (by simp [List.isPrefixOf?])]
    rfl

theorem read_callLine (hs : IsWord s.visitMethod.toList) :
    declaredMethod? .java (callLine s).bare = none ∧
      calledMethod? .java (callLine s).bare = some s.visitMethod := by
  have htext : (callLine s).bare =
      "return visitor.".toList ++ (s.visitMethod.toList ++ '(' :: "this);".toList) := by
    rw [Line.bare, callLine, dropReturn_toList_append _ (c := ';') (by decide) (by decide)]
    simp
  rw [htext]
  constructor
  · rw [declaredMethod?, scanName, declaredStart, scan_eq_none (by simp [List.isPrefixOf?])]
    rfl
  · rw [calledMethod?, calledStart, scanName_append (hs.notMem (by decide))]

/-- A class hierarchy declares the visit methods in order, and calls them in order. -/
theorem read_form {cfg : Config} (htarget : cfg.target = .java) (ht : t.Words)
    (hvisit : t.VisitNames) :
    ((form cfg t).map Line.bare).filterMap (declaredMethod? .java) =
        t.shapes.map (·.visitMethod) ∧
      ((form cfg t).map Line.bare).filterMap (calledMethod? .java) =
        t.shapes.map (·.visitMethod) := by
  constructor
  · rw [List.filterMap_map, Function.comp_def, filterMap_form htarget ht
        fun l (hl : Silent .java t.base _) => hl.bare.declaredMethod?,
      List.filterMap_eq_map_iff_forall_eq_some.mpr fun s hs =>
        (read_declarationLine (hvisit s hs)).1,
      List.filterMap_eq_nil_iff.mpr fun s hs => (read_callLine (ht.visitMethods s hs)).1,
      List.append_nil]
  · rw [List.filterMap_map, Function.comp_def, filterMap_form htarget ht
        fun l (hl : Silent .java t.base _) => hl.bare.calledMethod?,
      List.filterMap_eq_nil_iff.mpr fun s hs => (read_declarationLine (hvisit s hs)).2,
      List.filterMap_eq_map_iff_forall_eq_some.mpr fun s hs =>
        (read_callLine (ht.visitMethods s hs)).2,
      List.nil_append]

end ClassHierarchy

namespace TaggedUnion

/-- A line of the trait declares its visit method, for its shape, and calls none. -/
theorem read_declarationLine (ht : t.Words) (hname : IsWord s.name.toList)
    (h : ∃ rest : String, IsWord rest.toList ∧ s.visitMethodSnake = "visit" ++ rest) :
    declaredMethod? .rust (declarationLine t s).bare =
        some s.visitMethodSnake ∧
      declaredFor? (declarationLine t s).bare =
        some (s.name, s.visitMethodSnake) ∧
      calledMethod? .rust (declarationLine t s).bare = none ∧
      matchArm? t.base (declarationLine t s).bare = none := by
  obtain ⟨rest, hrest, hs⟩ := h
  have htext : (declarationLine t s).bare = "fn visit".toList ++
      (rest.toList ++ '(' :: ("&mut self, ".toList ++ ((written t.visitorParameter).toList ++
        ':' :: (" &".toList ++ (s.name.toList ++ ')' :: " -> R;".toList))))) := by
    rw [Line.bare, declarationLine, dropReturn_toList_append _ (c := ';') (by decide) (by decide)]
    simp [hs]
  have hmark : mark (declarationLine t s).bare = some ' ' := by
    simp [htext, mark_cons, isIdentifierRest]
  rw [htext] at hmark ⊢
  refine ⟨?_, ?_, ?_, ?_⟩
  · rw [declaredMethod?, declaredStart, scanName_append (hrest.notMem (by decide)), hs]
    rfl
  · rw [declaredFor?, declaredStart, scan_append (hrest.notMem (by decide)),
      scan_append (notMem_written ht.parameter (by decide) (by decide)),
      scan_append (hname.notMem (by decide)), hs]
    rfl
  · rw [calledMethod?, scanName, calledStart, scan_eq_none
      (isPrefixOf?_eq_none_of_mark (c := '.') (by decide) (by rw [hmark]; decide))]
    rfl
  · rw [matchArm?, scan_eq_none
      (isPrefixOf?_eq_none_of_mark (mark_variant ht.base) (by rw [hmark]; decide))]

theorem read_callLine (hbase : IsWord t.base.toList) (hs : IsWord s.visitMethodSnake.toList) :
    declaredMethod? .rust (callLine s).bare = none ∧
      declaredFor? (callLine s).bare = none ∧
      calledMethod? .rust (callLine s).bare = some s.visitMethodSnake ∧
      matchArm? t.base (callLine s).bare = none := by
  have htext : (callLine s).bare =
      "visitor.".toList ++ (s.visitMethodSnake.toList ++ '(' :: "self)".toList) := by
    rw [Line.bare, callLine, dropReturn_toList_append _ (c := ')') (by decide) (by decide)]
    simp
  have hmark : mark (callLine s).bare = some '.' := by
    simp [htext, mark_cons, isIdentifierRest]
  rw [htext] at hmark ⊢
  refine ⟨?_, ?_, ?_, ?_⟩
  · rw [declaredMethod?, scanName, declaredStart, scan_eq_none (by simp [List.isPrefixOf?])]
    rfl
  · rw [declaredFor?, declaredStart, scan_eq_none (by simp [List.isPrefixOf?])]
  · rw [calledMethod?, calledStart, scanName_append (hs.notMem (by decide))]
  · rw [matchArm?, scan_eq_none
      (isPrefixOf?_eq_none_of_mark (mark_variant hbase) (by rw [hmark]; decide))]

/-- An arm of the dispatch pairs its variant with its visit method. -/
theorem read_armLine (hbase : IsWord t.base.toList) (hname : IsWord s.name.toList)
    (hs : IsWord s.visitMethodSnake.toList) :
    declaredMethod? .rust (armLine t s).bare = none ∧
      declaredFor? (armLine t s).bare = none ∧
      calledMethod? .rust (armLine t s).bare = none ∧
      matchArm? t.base (armLine t s).bare =
        some (s.name, s.visitMethodSnake) := by
  have htext : (armLine t s).bare = (t.base ++ "::").toList ++
      (s.name.toList ++ '(' :: ("node) => visitor.".toList ++ (s.visitMethodSnake.toList ++
        '(' :: "node),".toList))) := by
    rw [Line.bare, armLine, dropReturn_toList_append _ (c := ',') (by decide) (by decide)]
    simp
  -- The base type is followed by a colon, so the row starts like neither of the other two kinds.
  have hmark : mark (armLine t s).bare = some ':' := by
    rw [htext]
    exact mark_of_start (mark_variant hbase) (List.prefix_append _ _)
  rw [htext] at hmark ⊢
  have hdeclared : "fn visit".toList.isPrefixOf? ((t.base ++ "::").toList ++
      (s.name.toList ++ '(' :: ("node) => visitor.".toList ++ (s.visitMethodSnake.toList ++
        '(' :: "node),".toList)))) = none :=
    isPrefixOf?_eq_none_of_mark (c := ' ') (by decide) (by rw [hmark]; decide)
  refine ⟨?_, ?_, ?_, ?_⟩
  · rw [declaredMethod?, scanName, declaredStart, scan_eq_none hdeclared]
    rfl
  · rw [declaredFor?, declaredStart, scan_eq_none hdeclared]
  · rw [calledMethod?, scanName, calledStart, scan_eq_none
      (isPrefixOf?_eq_none_of_mark (c := '.') (by decide) (by rw [hmark]; decide))]
    rfl
  · rw [matchArm?, scan_append (hname.notMem (by decide)), scan_append (hs.notMem (by decide))]
    rfl

/-- A tagged union declares, calls and matches the visit methods in order. -/
theorem read_form {cfg : Config} (htarget : cfg.target = .rust) (ht : t.Words)
    (hvisit : t.VisitNames) :
    ((form cfg t).map Line.bare).filterMap (declaredMethod? .rust) =
        t.shapes.map (·.visitMethodSnake) ∧
      ((form cfg t).map Line.bare).filterMap declaredFor? =
        t.shapes.map (fun s => (s.name, s.visitMethodSnake)) ∧
      ((form cfg t).map Line.bare).filterMap (calledMethod? .rust) =
        t.shapes.map (·.visitMethodSnake) ∧
      ((form cfg t).map Line.bare).filterMap (matchArm? t.base) =
        t.shapes.map (fun s => (s.name, s.visitMethodSnake)) := by
  have hdeclaration := fun s hs =>
    read_declarationLine ht (ht.shapes s hs).name (hvisit.snake hs)
  have hcall := fun s hs => read_callLine ht.base (isWord_toSnakeCase (ht.visitMethods s hs))
  have harm := fun s hs =>
    read_armLine ht.base (ht.shapes s hs).name (isWord_toSnakeCase (ht.visitMethods s hs))
  simp only [List.filterMap_map, Function.comp_def]
  refine ⟨?_, ?_, ?_, ?_⟩
  · rw [filterMap_form htarget ht fun l hl => hl.bare.declaredMethod?,
      List.filterMap_eq_map_iff_forall_eq_some.mpr fun s hs => (hdeclaration s hs).1,
      List.filterMap_eq_nil_iff.mpr fun s hs => (hcall s hs).1,
      List.filterMap_eq_nil_iff.mpr fun s hs => (harm s hs).1, List.append_nil, List.append_nil]
  · rw [filterMap_form htarget ht fun l hl => hl.bare.declaredFor?,
      List.filterMap_eq_map_iff_forall_eq_some.mpr fun s hs => (hdeclaration s hs).2.1,
      List.filterMap_eq_nil_iff.mpr fun s hs => (hcall s hs).2.1,
      List.filterMap_eq_nil_iff.mpr fun s hs => (harm s hs).2.1, List.append_nil, List.append_nil]
  · rw [filterMap_form htarget ht fun l hl => hl.bare.calledMethod?,
      List.filterMap_eq_nil_iff.mpr fun s hs => (hdeclaration s hs).2.2.1,
      List.filterMap_eq_map_iff_forall_eq_some.mpr fun s hs => (hcall s hs).2.2.1,
      List.filterMap_eq_nil_iff.mpr fun s hs => (harm s hs).2.2.1, List.nil_append,
      List.append_nil]
  · rw [filterMap_form htarget ht fun l hl => hl.bare.matchArm?,
      List.filterMap_eq_nil_iff.mpr fun s hs => (hdeclaration s hs).2.2.2,
      List.filterMap_eq_nil_iff.mpr fun s hs => (hcall s hs).2.2.2,
      List.filterMap_eq_map_iff_forall_eq_some.mpr fun s hs => (harm s hs).2.2.2,
      List.nil_append, List.nil_append]

end TaggedUnion

/-! ### The names agree -/

/-- The visit method of a shape, as a target names it. -/
def visitMethod (target : Target) (base : String) (s : Shape) : String :=
  match target with
  | .java => visitMethodName s.name base
  | .rust => toSnakeCase (visitMethodName s.name base)

/-- The rows of a document are the lines of its form. -/
theorem rows_of_generate {base source : String} {t : Table}
    (ht : Table.ofSource base source = .ok t) {cfg : Config} (hcfg : cfg.OneLine)
    {doc : String} (hdoc : t.generate cfg = .ok doc) :
    rows doc = (form cfg t.resolve).map Line.bare := by
  obtain ⟨-, rfl⟩ := Table.generate_eq_ok_iff.mp hdoc
  obtain ⟨hshapes, hdata⟩ := Table.types_oneLine_resolve ht
  exact rows_renderLines hcfg.indent
    (plain_form hcfg (Table.wellFormed_of_ofDeclarations ht).words_resolve hshapes hdata)

/-- **Dispatch.**  A document declares and calls one visit method for each shape, in the order of
the table.  In a tagged union the match calls the same methods, each for the variant of the shape
that the method is declared for. -/
theorem dispatch_of_generate {base source : String} {t : Table}
    (ht : Table.ofSource base source = .ok t) {cfg : Config} (hcfg : cfg.OneLine)
    {doc : String} (hdoc : t.generate cfg = .ok doc) :
    declaredMethods cfg.target doc = t.shapes.toList.map (visitMethod cfg.target t.base) ∧
      calledMethods cfg.target doc = t.shapes.toList.map (visitMethod cfg.target t.base) ∧
      (cfg.target = .rust →
        methodShapes doc =
            t.shapes.toList.map (fun s => (s.name, visitMethod cfg.target t.base s)) ∧
          matchArms t.base doc =
            t.shapes.toList.map (fun s => (s.name, visitMethod cfg.target t.base s))) := by
  have hwf := Table.wellFormed_of_ofDeclarations ht
  rw [declaredMethods, calledMethods, methodShapes, matchArms,
    rows_of_generate ht hcfg hdoc]
  cases htarget : cfg.target with
  | java =>
      obtain ⟨hdeclared, hcalled⟩ :=
        ClassHierarchy.read_form htarget hwf.words_resolve hwf.visitNames_resolve
      rw [hdeclared, hcalled, Table.resolve, List.map_map]
      exact ⟨rfl, rfl, nofun⟩
  | rust =>
      obtain ⟨hdeclared, hfor, hcalled, hmatched⟩ :=
        TaggedUnion.read_form htarget hwf.words_resolve hwf.visitNames_resolve
      rw [hdeclared, hfor, hcalled, show t.base = t.resolve.base from rfl, hmatched, Table.resolve,
        List.map_map, List.map_map]
      exact ⟨rfl, rfl, fun _ => ⟨rfl, rfl⟩⟩

/-- **The names of dispatch agree** across a document, and across the documents of both targets. -/
theorem Table.dispatch_methods_agree {base source : String} {t : Table}
    (ht : Table.ofSource base source = .ok t) :
    (∀ (cfg : Config) (doc : String), cfg.OneLine → t.generate cfg = .ok doc →
      declaredMethods cfg.target doc = t.shapes.toList.map (visitMethod cfg.target t.base) ∧
      calledMethods cfg.target doc = declaredMethods cfg.target doc ∧
      (cfg.target = .rust →
        (matchArms t.base doc).map Prod.snd = declaredMethods cfg.target doc ∧
        (matchArms t.base doc).map Prod.fst = t.shapes.toList.map (·.name) ∧
        matchArms t.base doc = methodShapes doc)) ∧
    ∀ (java rust : Config) (classes union : String), java.target = .java → rust.target = .rust →
      java.OneLine → rust.OneLine → t.generate java = .ok classes →
      t.generate rust = .ok union →
      declaredMethods .rust union = (declaredMethods .java classes).map toSnakeCase := by
  refine ⟨fun cfg doc hcfg hdoc => ?_, ?_⟩
  · obtain ⟨hdeclared, hcalled, hrust⟩ := dispatch_of_generate ht hcfg hdoc
    refine ⟨hdeclared, hcalled.trans hdeclared.symm, fun htarget => ?_⟩
    obtain ⟨hfor, hmatched⟩ := hrust htarget
    rw [hmatched, hfor, hdeclared, List.map_map, List.map_map]
    exact ⟨rfl, rfl, rfl⟩
  · intro java rust classes union hjava hrust hcfg hcfg' hclasses hunion
    obtain ⟨hclasses, -⟩ := dispatch_of_generate ht hcfg hclasses
    obtain ⟨hunion, -⟩ := dispatch_of_generate ht hcfg' hunion
    rw [hjava] at hclasses
    rw [hrust] at hunion
    rw [hclasses, hunion, List.map_map]
    rfl

/-- Names and fields that resemble the words of dispatch, under a header that does. -/
def misleadingTable : Table :=
  ((Table.empty "Expr").addShape
    ⟨"Visit", [⟨"Expr", "visitor"⟩, ⟨"Token", "fn"⟩]⟩ |>.addShape ⟨"HTTPGet", [⟨"R", "visit"⟩]⟩)
    |>.addDataType ⟨"visitor", [⟨"Token", "node"⟩]⟩

/-- Settings with a header whose lines look like declared methods. -/
def misleadingConfig (target : Target) : Config :=
  ⟨target, "\t ", some "a.b", ["c::D"], some "fn visit(\r\nR visit(\r\r\n", ["Debug"]⟩

theorem misleadingConfig_oneLine (target : Target) : (misleadingConfig target).OneLine :=
  { indent := by simp [misleadingConfig, isIndentChar]
    package := by simp [misleadingConfig]
    imports := by simp [misleadingConfig]
    derives := by simp [misleadingConfig] }

theorem dispatch_methods_agree_misleadingTable :
    Table.ofSource "Expr"
        "Visit: Expr visitor, Token fn # R visit(\nHTTPGet: R visit\nstruct visitor: Token node" =
      .ok misleadingTable ∧
    ∃ classes union, misleadingTable.generate (misleadingConfig .java) = .ok classes ∧
      misleadingTable.generate (misleadingConfig .rust) = .ok union ∧
      calledMethods .java classes = ["visitVisitExpr", "visitHTTPGetExpr"] ∧
      declaredMethods .rust union = ["visit_visit_expr", "visit_http_get_expr"] ∧
      (matchArms "Expr" union).map Prod.snd = ["visit_visit_expr", "visit_http_get_expr"] := by
  have ht : Table.ofSource "Expr"
      "Visit: Expr visitor, Token fn # R visit(\nHTTPGet: R visit\nstruct visitor: Token node" =
    .ok misleadingTable := rfl
  have hclasses := Table.generate_eq_ok_iff (t := misleadingTable).mpr
    ⟨(rfl : check (misleadingConfig .java) misleadingTable.resolve = .ok ()), rfl⟩
  have hunion := Table.generate_eq_ok_iff (t := misleadingTable).mpr
    ⟨(rfl : check (misleadingConfig .rust) misleadingTable.resolve = .ok ()), rfl⟩
  obtain ⟨hagree, hsnake⟩ := Table.dispatch_methods_agree ht
  obtain ⟨hjava, hcalled, -⟩ := hagree _ _ (misleadingConfig_oneLine .java) hclasses
  obtain ⟨-, -, hrust⟩ := hagree _ _ (misleadingConfig_oneLine .rust) hunion
  replace hjava := hjava.trans
    (by decide : _ = ["visitVisitExpr", "visitHTTPGetExpr"])
  have hdeclared := (hsnake _ _ _ _ rfl rfl (misleadingConfig_oneLine .java)
    (misleadingConfig_oneLine .rust) hclasses hunion).trans (congrArg (List.map toSnakeCase) hjava)
  replace hdeclared := hdeclared.trans
    (by decide : _ = ["visit_visit_expr", "visit_http_get_expr"])
  exact ⟨ht, _, _, hclasses, hunion, hcalled.trans hjava, hdeclared,
    (hrust rfl).1.trans hdeclared⟩

end AstForge
