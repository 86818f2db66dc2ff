import AstForge.Proofs.Document.Detail

/-!
# Documents — the rows that dispatch

A node reaches its visit method in two or three rows of a document: the row of the visitor that
declares the method, the row of the node that calls it, and, in a tagged union, the row of the match
on the base type that calls it for the node's variant.  The readers below find such rows by the way
they start, wherever they stand.

Every other row is *silent*: no reader takes it for one of those, whatever the names and types of
the table are.  Hence a reader reads the dispatch rows and nothing else
(`ClassHierarchy.filterMap_form`, `TaggedUnion.filterMap_form`).
-/

namespace AstForge

open Text

/-! ### Reading a row -/

namespace Document

/-- How a row starts that declares a visit method. -/
def declaredStart : Target → String
  | .java => "R visit"
  | .rust => "fn visit"

/-- How a row starts that calls a visit method. -/
def calledStart : Target → String
  | .java => "return visitor."
  | .rust => "visitor."

/-- The visit method that a row declares. -/
def declaredMethod? (target : Target) (row : List Char) : Option String :=
  (scanName (declaredStart target) '(' row).map ("visit" ++ ·)

/-- The visit method that a row calls. -/
def calledMethod? (target : Target) (row : List Char) : Option String :=
  scanName (calledStart target) '(' row

/-- The shape whose visit method a row of the trait declares, and that method. -/
def declaredFor? (row : List Char) : Option (String × String) :=
  match scan [(declaredStart .rust, '('), ("&mut self, ", ':'), (" &", ')')] row with
  | some [method, _, shape] => some (shape, "visit" ++ method)
  | _ => none

/-- The variant that a row of the match on the base type names, and the method that it calls. -/
def matchArm? (base : String) (row : List Char) : Option (String × String) :=
  match scan [(base ++ "::", '('), ("node) => visitor.", '(')] row with
  | some [variant, method] => some (variant, method)
  | _ => none

/-- The row neither declares nor calls a visit method. -/
structure Silent (target : Target) (base : String) (row : List Char) : Prop where
  declared : (declaredStart target).toList.isPrefixOf? row = none
  called : (calledStart target).toList.isPrefixOf? row = none
  matched : target = .rust →
    scan [(base ++ "::", '('), ("node) => visitor.", '(')] row = none

variable {target : Target} {base : String} {row : List Char}

/-- A silent line is silent as it is read back. -/
theorem Silent.bare {l : Line} (h : Silent target base l.text.toList) :
    Silent target base l.bare :=
  ⟨isPrefixOf?_dropReturn_eq_none h.declared, isPrefixOf?_dropReturn_eq_none h.called,
    fun htarget => scan_dropReturn_eq_none (h.matched htarget)⟩

theorem Silent.declaredMethod? (h : Silent target base row) :
    declaredMethod? target row = none := by
  rw [Document.declaredMethod?, scanName, scan_eq_none h.declared]
  rfl

theorem Silent.calledMethod? (h : Silent target base row) : calledMethod? target row = none := by
  rw [Document.calledMethod?, scanName, scan_eq_none h.called]
  rfl

theorem Silent.declaredFor? (h : Silent .rust base row) : declaredFor? row = none := by
  rw [Document.declaredFor?, scan_eq_none h.declared]

theorem Silent.matchArm? (h : Silent .rust base row) : matchArm? base row = none := by
  rw [Document.matchArm?, h.matched rfl]

end Document

open Document

/-- Items that are each read in at most one line. -/
theorem filterMap_flatMap_eq {α β : Type} {f : Line → Option α} {items : List β}
    {ls : β → List Line} {line : β → Line}
    (h : ∀ b ∈ items, (ls b).filterMap f = (f (line b)).toList) :
    (items.flatMap ls).filterMap f = items.filterMap (fun b => f (line b)) := by
  induction items with
  | nil => rfl
  | cons b items ih =>
      rw [List.flatMap_cons, List.filterMap_append, h b List.mem_cons_self,
        ih fun b hb => h b (List.mem_cons_of_mem _ hb), List.filterMap_cons]
      cases f (line b) <;> rfl

theorem filterMap_eq_nil {α : Type} {f : Line → Option α} {P : Line → Prop}
    (hf : ∀ l, P l → f l = none) {ls : List Line} (h : ∀ l ∈ ls, P l) : ls.filterMap f = [] :=
  List.filterMap_eq_nil_iff.mpr fun l hl => hf l (h l hl)

/-- Among lines in which nothing is read, one other line is all that is read. -/
theorem filterMap_between {α : Type} {f : Line → Option α} {P : Line → Prop}
    (hf : ∀ l, P l → f l = none) {before after : List Line} (hbefore : ∀ l ∈ before, P l)
    (hafter : ∀ l ∈ after, P l) (line : Line) :
    (before ++ line :: after).filterMap f = (f line).toList := by
  rw [List.filterMap_append, List.filterMap_cons, filterMap_eq_nil hf hbefore,
    filterMap_eq_nil hf hafter]
  cases f line <;> rfl

/-- What is read in a document: what is read in the visitor, in the nodes and in the dispatch. -/
theorem Document.filterMap_form_eq {α : Type} {f : Line → Option α} {P : Line → Prop}
    (cfg : Config) (t : ResolvedTable) (line : ResolvedShape → Line) (hf : ∀ l, P l → f l = none)
    (hblank : P Line.blank) (hpreamble : ∀ l ∈ preamble cfg t, P l)
    (hopening : ∀ l ∈ opening cfg t, P l)
    (hnode : ∀ s ∈ t.shapes, (nodeForm cfg t s).filterMap f = (f (line s)).toList)
    (hdata : ∀ d ∈ t.dataTypes, ∀ l ∈ dataTypeForm cfg t d, P l)
    (hclosing : ∀ l ∈ closing cfg, P l) :
    (form cfg t).filterMap f =
      (visitorForm cfg t).filterMap f ++ t.shapes.filterMap (fun b => f (line b)) ++
        (dispatch cfg t).filterMap f := by
  have hnodes : (t.shapes.flatMap fun s => Line.blank :: nodeForm cfg t s).filterMap f =
      t.shapes.filterMap (fun b => f (line b)) := by
    refine filterMap_flatMap_eq fun s hs => ?_
    rw [List.filterMap_cons, hf _ hblank, hnode s hs]
  have hdataTypes :
      (t.dataTypes.flatMap fun d => Line.blank :: dataTypeForm cfg t d).filterMap f = [] := by
    refine filterMap_eq_nil hf ?_
    simp only [List.forall_mem_flatMap, List.forall_mem_cons]
    exact fun d hd => ⟨hblank, hdata d hd⟩
  simp only [form, List.filterMap_append, List.flatMap_append, List.flatMap_map, hnodes,
    hdataTypes, List.filterMap_cons, hf _ hblank, filterMap_eq_nil hf hpreamble,
    filterMap_eq_nil hf hopening, filterMap_eq_nil hf hclosing, List.nil_append, List.append_nil]

/-! ### The class hierarchy -/

namespace ClassHierarchy

variable {t : ResolvedTable} {base : String}

/-- The line that declares the visit method of a shape. -/
def declarationLine (t : ResolvedTable) (s : ResolvedShape) : Line :=
  ⟨2, "R " ++ s.visitMethod ++ "(" ++ s.name ++ " " ++ t.visitorParameter ++ ");"⟩

/-- The line by which a node calls its visit method. -/
def callLine (s : ResolvedShape) : Line :=
  ⟨3, "return visitor." ++ s.visitMethod ++ "(this);"⟩

/-- A detail of a class hierarchy is silent. -/
theorem Detail.silent {row : List Char} (h : Detail row) : Silent .java base row :=
  ⟨h.not_start (by decide) (by decide), h.not_start (by decide) (by decide), nofun⟩

/-- A row that starts as neither a declaration nor a call is silent. -/
theorem silent_of_start {row : List Char} (hd : "R visit".toList.isPrefixOf? row = none)
    (hc : "return visitor.".toList.isPrefixOf? row = none) : Silent .java base row :=
  ⟨hd, hc, nofun⟩

variable {α : Type} {f : Line → Option α}

/-- In the class of a shape nothing is read but the call of its visit method. -/
theorem filterMap_node (hf : ∀ l, Silent .java base l.text.toList → f l = none)
    {s : ResolvedShape} (hs : s.toResolvedData.Words) :
    (node t s).filterMap f = (f (callLine s)).toList := by
  have hnode : node t s =
      (⟨1, "static class " ++ s.name ++ " extends " ++ t.base ++ " \x7b"⟩ ::
        constructor s.toResolvedData ++ [Line.blank, ⟨2, "@Override"⟩,
          ⟨2, "<R> R accept(Visitor<R> visitor) \x7b"⟩]) ++
      callLine s :: (⟨2, "\x7d"⟩ :: fieldLines s.toResolvedData ++ [⟨1, "\x7d"⟩]) := by
    simp [node, acceptMethod, callLine]
  rw [hnode]
  refine filterMap_between hf ?_ ?_ _
  · simp only [List.cons_append, List.forall_mem_cons, List.forall_mem_append]
    refine ⟨silent_of_start ?_ ?_, fun l hl => (detail_constructor hs l hl).silent, ?_, ?_, ?_,
      by simp⟩
    · simp [List.isPrefixOf?]
    · simp [List.isPrefixOf?]
    all_goals exact (Detail.ofMark (by decide)).silent
  · simp only [List.cons_append, List.forall_mem_cons, List.forall_mem_append]
    refine ⟨?_, fun l hl => (detail_fieldLines l hl).silent, ?_, by simp⟩ <;>
      exact (Detail.ofMark (by decide)).silent

theorem silent_dataType {d : ResolvedData} (hd : d.Words) :
    ∀ l ∈ dataType d, Silent .java base l.text.toList := by
  simp only [dataType, List.cons_append, List.forall_mem_cons, List.forall_mem_append, and_assoc]
  refine ⟨silent_of_start ?_ ?_, fun l hl => (detail_constructor hd l hl).silent,
    fun l hl => (detail_fieldLines l hl).silent, (Detail.ofMark (by decide)).silent, by simp⟩
  · simp [List.isPrefixOf?]
  · simp [List.isPrefixOf?]

/-- In the interface only the declarations are read. -/
theorem filterMap_visitor (hf : ∀ l, Silent .java base l.text.toList → f l = none) :
    (visitor t).filterMap f = t.shapes.filterMap (fun s => f (declarationLine t s)) := by
  have hopen : f ⟨1, "interface Visitor<R> \x7b"⟩ = none :=
    hf _ (silent_of_start (by decide) (by decide))
  have hclose : f ⟨1, "\x7d"⟩ = none := hf _ (Detail.ofMark (by decide)).silent
  have hvisitor : visitor t =
      ⟨1, "interface Visitor<R> \x7b"⟩ :: t.shapes.map (declarationLine t) ++ [⟨1, "\x7d"⟩] := rfl
  simp [hvisitor, hopen, hclose]

/-- **Only dispatch is read** in a class hierarchy: the declarations of the visit methods and then
their calls, each in the order of the shapes. -/
theorem filterMap_form {cfg : Config} (htarget : cfg.target = .java) (ht : t.Words)
    (hf : ∀ l, Silent .java base l.text.toList → f l = none) :
    (form cfg t).filterMap f =
      t.shapes.filterMap (fun s => f (declarationLine t s)) ++
        t.shapes.filterMap (fun s => f (callLine s)) := by
  obtain ⟨target, indent, package, imports, header, derives⟩ := cfg
  obtain rfl : target = .java := htarget
  refine (filterMap_form_eq _ t callLine hf (Detail.ofMark (by decide)).silent
    ?_ ?_ ?_ ?_ ?_).trans ?_
  · exact fun l hl => (detail_preamble l hl).silent
  · refine List.forall_mem_singleton.mpr (silent_of_start ?_ ?_) <;> simp [List.isPrefixOf?]
  · exact fun s hs => filterMap_node hf (ht.shapes s hs)
  · exact fun d hd => silent_dataType (ht.dataTypes d hd)
  · exact List.forall_mem_singleton.mpr (Detail.ofMark (by decide)).silent
  · have hdispatch : dispatch.filterMap f = [] :=
      filterMap_eq_nil hf fun l hl => (detail_dispatch l hl).silent
    rw [show visitorForm _ t = visitor t from rfl, filterMap_visitor hf,
      show Document.dispatch _ t = dispatch from rfl, hdispatch, List.append_nil]

end ClassHierarchy

/-! ### The tagged union -/

namespace TaggedUnion

variable {t : ResolvedTable} {base : String} {fs : List ResolvedField}

/-- The line that declares the visit method of a shape. -/
def declarationLine (t : ResolvedTable) (s : ResolvedShape) : Line :=
  ⟨1, "fn " ++ s.visitMethodSnake ++ "(&mut self, " ++ written t.visitorParameter ++ ": &" ++
    s.name ++ ") -> R;"⟩

/-- The line by which a node calls its visit method. -/
def callLine (s : ResolvedShape) : Line :=
  ⟨2, "visitor." ++ s.visitMethodSnake ++ "(self)"⟩

/-- The line by which any node calls the visit method of its variant. -/
def armLine (t : ResolvedTable) (s : ResolvedShape) : Line :=
  ⟨3, t.base ++ "::" ++ s.name ++ "(node) => visitor." ++ s.visitMethodSnake ++ "(node),"⟩

/-- The first mark after the base type in a variant is a colon. -/
theorem mark_variant (h : IsWord base.toList) : mark (base ++ "::").toList = some ':' := by
  rw [String.toList_append, mark_append h]
  decide

theorem mark_armLine (hbase : IsWord t.base.toList) (s : ResolvedShape) :
    mark (armLine t s).text.toList = some ':' :=
  mark_of_start (mark_variant hbase) (by simp [armLine])

/-- A row whose first word is followed by a blank is silent, unless it declares a visit method. -/
theorem silent_of_start (hbase : IsWord base.toList) {row : List Char} (h : mark row = some ' ')
    (hd : "fn visit".toList.isPrefixOf? row = none) : Silent .rust base row :=
  ⟨hd, isPrefixOf?_eq_none_of_mark (c := '.') (by decide) (by simp [h]), fun _ =>
    scan_eq_none (isPrefixOf?_eq_none_of_mark (mark_variant hbase) (by simp [h])) _ _⟩

/-- A detail of a tagged union is silent. -/
theorem Detail.silent (hbase : IsWord base.toList) {row : List Char} (h : Detail row) :
    Silent .rust base row := by
  have hdeclared : "fn visit".toList.isPrefixOf? row = none :=
    h.not_start (by decide) (by decide)
  cases h with
  | ofMark h =>
      simp only [List.mem_cons, List.not_mem_nil, or_false, not_or] at h
      exact ⟨hdeclared, isPrefixOf?_eq_none_of_mark (by decide) h.2.1,
        fun _ => scan_eq_none (isPrefixOf?_eq_none_of_mark (mark_variant hbase) h.2.2) _ _⟩
  | @ofField w hw rest =>
      have hm : mark (w ++ ':' :: ' ' :: rest) = some ':' := by
        rw [mark_append hw]
        simp [mark_cons, isIdentifierRest]
      refine ⟨hdeclared, isPrefixOf?_eq_none_of_mark (c := '.') (by decide) (by simp [hm]),
        fun _ => scan_eq_none (Option.eq_none_iff_forall_ne_some.mpr fun after h => ?_) _ _⟩
      -- A variant has two colons, a field has a colon and a blank.
      have heq := (List.append_eq_of_isPrefixOf?_eq_some h).symm
      rw [String.toList_append, List.append_assoc] at heq
      obtain ⟨-, -, hrest⟩ := hw.append_cons_inj hbase (by decide) (by decide) heq
      cases hrest
  | @ofPhrase _ p h hp =>
      have hphrases : ∀ p ∈ ["use ", "pub fn ", "Self \x7b", "match self \x7b", "fn from("],
          mark p.toList = some ' ' := by
        decide
      exact silent_of_start hbase (mark_of_start (hphrases p h) hp) hdeclared

/-- The conversion names a variant, but no method is called on that row. -/
theorem silent_conversion (ht : t.Words) {s : ResolvedShape} (hs : s ∈ t.shapes) :
    ∀ l ∈ conversion t s, Silent .rust t.base l.text.toList := by
  have hvariant : Silent .rust t.base (t.base ++ "::" ++ s.name ++ "(node)").toList := by
    have hm : mark (t.base ++ "::" ++ s.name ++ "(node)").toList = some ':' :=
      mark_of_start (mark_variant ht.base) (by simp)
    refine ⟨isPrefixOf?_eq_none_of_mark (c := ' ') (by decide) (by rw [hm]; decide),
      isPrefixOf?_eq_none_of_mark (c := '.') (by decide) (by rw [hm]; decide), fun _ => ?_⟩
    rw [show (t.base ++ "::" ++ s.name ++ "(node)").toList =
        (t.base ++ "::").toList ++ (s.name.toList ++ '(' :: "node)".toList) by simp,
      scan_append ((ht.shapes s hs).name.notMem (by decide)),
      scan_eq_none (by decide)]
    rfl
  simp only [conversion, List.forall_mem_cons]
  refine ⟨silent_of_start ht.base ?_ ?_,
    (Detail.ofPhrase (p := "fn from(") (by simp) (by simp)).silent ht.base, hvariant,
    (Detail.ofMark (by decide)).silent ht.base, (Detail.ofMark (by decide)).silent ht.base, by simp⟩
  · simp [mark_cons, isIdentifierRest]
  · simp [List.isPrefixOf?]

theorem silent_opening (ht : t.Words) {cfg : Config} :
    ∀ l ∈ opening cfg t, Silent .rust t.base l.text.toList := by
  simp only [opening, List.cons_append, List.forall_mem_cons, List.forall_mem_append,
    List.forall_mem_map, String.toList_append, List.append_assoc]
  refine ⟨Detail.silent ht.base (.ofMark ?_),
    fun l hl => (detail_deriveAttribute l hl).silent ht.base, silent_of_start ht.base ?_ ?_,
    fun s hs => Detail.silent ht.base (.ofMark ?_), Detail.silent ht.base (.ofMark (by decide)),
    Detail.silent ht.base (.ofMark (by decide)), by simp⟩
  · simp [mark_cons, isIdentifierRest]
  · simp [mark_cons, isIdentifierRest]
  · simp [List.isPrefixOf?]
  · rw [mark_append (ht.shapes s hs).name]
    simp [mark_cons, isIdentifierRest]

theorem silent_structLines (hbase : IsWord base.toList) {cfg : Config} {doc name : String}
    (hfs : ∀ f ∈ fs, IsWord f.identifier.toList) :
    ∀ l ∈ structLines cfg t doc name (fs.map NamedField.ofField),
      Silent .rust base l.text.toList := by
  simp only [structLines_eq, List.cons_append, List.forall_mem_cons, List.forall_mem_append]
  refine ⟨Detail.silent hbase (.ofMark ?_), fun l hl => (detail_deriveAttribute l hl).silent hbase,
    silent_of_start hbase ?_ ?_, fun l hl => (detail_fieldLine hfs l hl).silent hbase,
    Detail.silent hbase (.ofMark (by decide)), by simp⟩
  · simp [mark_cons, isIdentifierRest]
  · simp [mark_cons, isIdentifierRest]
  · simp [List.isPrefixOf?]

theorem silent_dataTypeLines (hbase : IsWord base.toList) {cfg : Config} {d : ResolvedData}
    (hd : d.Words) :
    ∀ l ∈ dataTypeLines cfg t d (d.fields.map NamedField.ofField),
      Silent .rust base l.text.toList := by
  simp only [dataTypeLines, List.forall_mem_cons, List.forall_mem_append, and_assoc]
  refine ⟨silent_structLines hbase hd.identifiers, Detail.silent hbase (.ofMark (by decide)),
    silent_of_start hbase ?_ ?_, by simp,
    fun l hl => (detail_constructor hd.identifiers l hl).silent hbase,
    fun l hl => (detail_accessors l hl).silent hbase, Detail.silent hbase (.ofMark (by decide)),
    by simp⟩
  · simp [mark_cons, isIdentifierRest]
  · simp [List.isPrefixOf?]

variable {α : Type} {f : Line → Option α}

/-- In the structure of a shape nothing is read but the call of its visit method. -/
theorem filterMap_nodeLines (hf : ∀ l, Silent .rust t.base l.text.toList → f l = none)
    (ht : t.Words) {cfg : Config} {s : ResolvedShape} (hs : s ∈ t.shapes) :
    (nodeLines cfg t s (s.fields.map NamedField.ofField)).filterMap f =
      (f (callLine s)).toList := by
  have hfs := (ht.shapes s hs).identifiers
  have hnode : nodeLines cfg t s (s.fields.map NamedField.ofField) =
      (structLines cfg t ("`" ++ s.name ++ "` node.") s.name (s.fields.map NamedField.ofField) ++
        [Line.blank, ⟨0, "impl " ++ s.name ++ " \x7b"⟩] ++
        constructor ("Creates a new `" ++ s.name ++ "` node.")
          (s.fields.map NamedField.ofField) ++ [Line.blank, acceptOpening t.base]) ++
      callLine s :: (⟨1, "\x7d"⟩ :: accessors (s.fields.map NamedField.ofField) ++
        [⟨0, "\x7d"⟩, Line.blank] ++ conversion t s) := by
    simp [nodeLines, acceptMethod, callLine]
  rw [hnode]
  refine filterMap_between hf ?_ ?_ _
  · simp only [List.forall_mem_cons, List.forall_mem_append, and_assoc]
    refine ⟨silent_structLines ht.base hfs, Detail.silent ht.base (.ofMark (by decide)),
      silent_of_start ht.base ?_ ?_, by simp,
      fun l hl => (detail_constructor hfs l hl).silent ht.base,
      Detail.silent ht.base (.ofMark (by decide)), (detail_acceptOpening t.base).silent ht.base,
      by simp⟩
    · simp [mark_cons, isIdentifierRest]
    · simp [List.isPrefixOf?]
  · simp only [List.cons_append, List.forall_mem_cons, List.forall_mem_append, and_assoc]
    exact ⟨Detail.silent ht.base (.ofMark (by decide)),
      fun l hl => (detail_accessors l hl).silent ht.base,
      Detail.silent ht.base (.ofMark (by decide)), Detail.silent ht.base (.ofMark (by decide)),
      by simp, silent_conversion ht hs⟩

/-- In the trait only the declarations are read. -/
theorem filterMap_visitorLines (hf : ∀ l, Silent .rust t.base l.text.toList → f l = none)
    (ht : t.Words) :
    (visitorLines t (written t.visitorParameter)).filterMap f =
      t.shapes.filterMap (fun s => f (declarationLine t s)) := by
  have hdoc : f ⟨0, "/// Visitor over every `" ++ t.base ++ "` shape."⟩ = none := by
    refine hf _ (Detail.silent ht.base (.ofMark ?_))
    simp [mark_cons, isIdentifierRest]
  have hopen : f ⟨0, "pub trait " ++ visitorTrait t.base ++ "<R> \x7b"⟩ = none := by
    refine hf _ (silent_of_start ht.base ?_ ?_)
    · simp [mark_cons, isIdentifierRest]
    · simp [List.isPrefixOf?]
  have hclose : f ⟨0, "\x7d"⟩ = none := hf _ (Detail.silent ht.base (.ofMark (by decide)))
  have hvisitor : visitorLines t (written t.visitorParameter) =
      [⟨0, "/// Visitor over every `" ++ t.base ++ "` shape."⟩,
        ⟨0, "pub trait " ++ visitorTrait t.base ++ "<R> \x7b"⟩] ++
      t.shapes.map (declarationLine t) ++ [⟨0, "\x7d"⟩] := rfl
  simp [hvisitor, hdoc, hopen, hclose]

/-- In the dispatch only the arms are read. -/
theorem filterMap_dispatch (hf : ∀ l, Silent .rust t.base l.text.toList → f l = none)
    (ht : t.Words) : (dispatch t).filterMap f = t.shapes.filterMap (fun s => f (armLine t s)) := by
  have hopen : f ⟨0, "impl " ++ t.base ++ " \x7b"⟩ = none := by
    refine hf _ (silent_of_start ht.base ?_ ?_)
    · simp [mark_cons, isIdentifierRest]
    · simp [List.isPrefixOf?]
  have haccept : f (acceptOpening t.base) = none :=
    hf _ ((detail_acceptOpening t.base).silent ht.base)
  have hmatch : f ⟨2, "match self \x7b"⟩ = none :=
    hf _ (Detail.silent ht.base (.ofPhrase (p := "match self \x7b") (by simp) (by simp)))
  have hbrace : Silent .rust t.base "\x7d".toList := Detail.silent ht.base (.ofMark (by decide))
  have hclose : ∀ depth, f ⟨depth, "\x7d"⟩ = none := fun _ => hf _ hbrace
  have hdispatch : dispatch t =
      [⟨0, "impl " ++ t.base ++ " \x7b"⟩, acceptOpening t.base, ⟨2, "match self \x7b"⟩] ++
      t.shapes.map (armLine t) ++ [⟨2, "\x7d"⟩, ⟨1, "\x7d"⟩] := rfl
  simp [hdispatch, hopen, haccept, hmatch, hclose]

/-- **Only dispatch is read** in a tagged union: the declarations of the visit methods, their calls
in the nodes and then their calls in the match, each in the order of the shapes. -/
theorem filterMap_form {cfg : Config} (htarget : cfg.target = .rust) (ht : t.Words)
    (hf : ∀ l, Silent .rust t.base l.text.toList → f l = none) :
    (form cfg t).filterMap f =
      t.shapes.filterMap (fun s => f (declarationLine t s)) ++
        t.shapes.filterMap (fun s => f (callLine s)) ++
        t.shapes.filterMap (fun s => f (armLine t s)) := by
  obtain ⟨target, indent, package, imports, header, derives⟩ := cfg
  obtain rfl : target = .rust := htarget
  rw [← filterMap_visitorLines hf ht, ← filterMap_dispatch hf ht]
  refine filterMap_form_eq _ t callLine hf (Detail.silent ht.base (.ofMark (by decide)))
    ?_ ?_ ?_ ?_ ?_
  · exact fun l hl => (detail_preamble l hl).silent ht.base
  · exact silent_opening ht
  · exact fun s hs => filterMap_nodeLines hf ht hs
  · exact fun d hd => silent_dataTypeLines ht.base (ht.dataTypes d hd)
  · exact List.forall_mem_singleton.mpr (Detail.silent ht.base (.ofMark (by decide)))

end TaggedUnion

end AstForge
