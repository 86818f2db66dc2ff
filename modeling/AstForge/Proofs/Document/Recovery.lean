import AstForge.Proofs.Document.Scopes

/-!
# Documents — a document determines its table

Two tables that were read from texts and have the same document, under the same settings, are the
same: base type, shapes and data types, each with its fields in order.

The proof reads both documents row by row from the start.  An item, the text of one declaration,
tells where it ends: its first row gives the name and the kind, the rows up to the next closing
brace give the number of fields, and with it the number of all rows that follow.  So two documents
that agree have the same first item and agree in what follows it (`ClassHierarchy.item_inj`,
`TaggedUnion.item_inj`), and by induction they have the same items (`items_inj`).

The settings may put line feeds into the attribute that derives traits.  Its rows are the same in
both documents and stand at known places, so they are skipped without being read.
-/

namespace AstForge

open Text Document

/-! ### Reading two lists together -/

/-- As many items, each of which tells where it ends, and what follows them. -/
theorem flatMap_append_inj {α β : Type} {f g : α → List β} {xs ys : List α} {r r' : List β}
    (hitem : ∀ x ∈ xs, ∀ y ∈ ys, ∀ r r', f x ++ r = g y ++ r' → x = y ∧ r = r')
    (hlength : xs.length = ys.length) (h : xs.flatMap f ++ r = ys.flatMap g ++ r') :
    xs = ys ∧ r = r' := by
  induction xs generalizing ys with
  | nil =>
      obtain rfl := List.length_eq_zero_iff.mp hlength.symm
      exact ⟨rfl, h⟩
  | cons x xs ih =>
      cases ys with
      | nil => cases hlength
      | cons y ys =>
          rw [List.flatMap_cons, List.flatMap_cons, List.append_assoc, List.append_assoc] at h
          obtain ⟨rfl, hrest⟩ := hitem x List.mem_cons_self y List.mem_cons_self _ _ h
          obtain ⟨rfl, hr⟩ := ih (fun a ha b hb => hitem a (List.mem_cons_of_mem _ ha) b
            (List.mem_cons_of_mem _ hb)) (Nat.succ.inj hlength) hrest
          exact ⟨rfl, hr⟩

/-- Items that each tell where they end, with a mark before each and before what follows the last;
what follows is no item. -/
theorem items_inj {α β : Type} {f g : α → List β} {xs ys : List α} {b : β} {last last' : List β}
    (hitem : ∀ x ∈ xs, ∀ y ∈ ys, ∀ r r', f x ++ r = g y ++ r' → x = y ∧ r = r')
    (hlast : ∀ y ∈ ys, ∀ r, last ≠ g y ++ r) (hlast' : ∀ x ∈ xs, ∀ r, f x ++ r ≠ last')
    (h : xs.flatMap (fun x => b :: f x) ++ b :: last =
      ys.flatMap (fun y => b :: g y) ++ b :: last') : xs = ys := by
  induction xs generalizing ys with
  | nil =>
      cases ys with
      | nil => rfl
      | cons y ys =>
          simp only [List.flatMap_nil, List.nil_append, List.flatMap_cons, List.cons_append,
            List.append_assoc, List.cons.injEq, true_and] at h
          exact absurd h (hlast y List.mem_cons_self _)
  | cons x xs ih =>
      cases ys with
      | nil =>
          simp only [List.flatMap_nil, List.nil_append, List.flatMap_cons, List.cons_append,
            List.append_assoc, List.cons.injEq, true_and] at h
          exact absurd h (hlast' x List.mem_cons_self _)
      | cons y ys =>
          simp only [List.flatMap_cons, List.cons_append, List.append_assoc, List.cons.injEq,
            true_and] at h
          obtain ⟨rfl, hrest⟩ := hitem x List.mem_cons_self y List.mem_cons_self _ _ h
          rw [ih (fun a ha b hb => hitem a (List.mem_cons_of_mem _ ha) b
              (List.mem_cons_of_mem _ hb))
            (fun y hy => hlast y (List.mem_cons_of_mem _ hy))
            (fun x hx => hlast' x (List.mem_cons_of_mem _ hx)) hrest]

/-- The items of two documents from the rows before the first blank one on. -/
theorem sections_inj {α : Type} {f g : α → List (List Char)} {xs ys : List α}
    {before before' last last' : List (List Char)} (hbefore : ∀ row ∈ before, row ≠ [])
    (hbefore' : ∀ row ∈ before', row ≠ [])
    (hitem : ∀ x ∈ xs, ∀ y ∈ ys, ∀ r r', f x ++ r = g y ++ r' → x = y ∧ r = r')
    (hlast : ∀ y ∈ ys, ∀ r, last ≠ g y ++ r) (hlast' : ∀ x ∈ xs, ∀ r, f x ++ r ≠ last')
    (h : before ++ (xs.flatMap (fun x => [] :: f x) ++ [] :: last) =
      before' ++ (ys.flatMap (fun y => [] :: g y) ++ [] :: last')) : xs = ys := by
  have hcons : ∀ (zs : List α) (k : α → List (List Char)) (end' : List (List Char)),
      ∃ r, zs.flatMap (fun z => [] :: k z) ++ [] :: end' = [] :: r := by
    intro zs k end'
    cases zs with
    | nil => exact ⟨_, rfl⟩
    | cons z zs => exact ⟨_, rfl⟩
  -- A blank row comes next whether or not there are items, and it is the first one.
  obtain ⟨r, hr⟩ := hcons xs f last
  obtain ⟨r', hr'⟩ := hcons ys g last'
  rw [hr, hr'] at h
  obtain ⟨-, -, hrest⟩ := append_cons_inj (p := List.isEmpty) (by simpa using hbefore) rfl
    (by simpa using hbefore') rfl h
  exact items_inj hitem hlast hlast' (by rw [hr, hr', hrest])

/-! ### Declarations -/

/-- The name of a declaration and the identifiers of its fields are words. -/
structure Declaration.Words (d : Declaration) : Prop where
  name : IsWord d.body.name.toList
  identifiers : ∀ f ∈ d.body.fields, IsWord f.identifier.toList

theorem Table.WellFormed.words_declaration {t : Table} (h : t.WellFormed) {d : Declaration}
    (hd : d ∈ t.declarations) : d.Words := by
  obtain ⟨hname, hfields⟩ := h.declaration hd
  exact ⟨isWord_of_isIdentifier hname, fun f hf => (hfields.readable f hf).isWord⟩

theorem Shape.eq_of_name_of_fields {x y : Shape} (hname : x.name.toList = y.name.toList)
    (hfields : x.fields = y.fields) : x = y := by
  obtain ⟨name, fields⟩ := x
  obtain ⟨name', fields'⟩ := y
  obtain rfl : name = name' := String.toList_inj.mp hname
  obtain rfl : fields = fields' := hfields
  rfl

/-! ### The class hierarchy -/

namespace ClassHierarchy

/-- The row that declares a field. -/
def fieldRow (f : Field) : List Char :=
  ("final " ++ f.type ++ " " ++ f.identifier ++ ";").toList

/-- A field is read back from the row that declares it. -/
theorem fieldRow_inj {f g : Field} (hf : IsWord f.identifier.toList)
    (hg : IsWord g.identifier.toList) (h : fieldRow f = fieldRow g) : f = g := by
  obtain ⟨type, name⟩ := f
  obtain ⟨type', name'⟩ := g
  obtain rfl : name = name' := by
    have hread := congrArg classField? h
    rw [fieldRow, fieldRow, classField?_eq_some _ hf, classField?_eq_some _ hg] at hread
    exact Option.some.inj hread
  have htype : type.toList = type'.toList := by simpa [fieldRow] using h
  rw [String.toList_inj.mp htype]

/-- The row that sets a field. -/
def setRow (f : Field) : List Char :=
  ("this." ++ f.identifier ++ " = " ++ f.identifier ++ ";").toList

theorem texts_constructor (base : String) (s : Shape) :
    texts (constructor (s.resolveData base)) =
      (s.name ++ "(" ++ ", ".intercalate (s.fields.map Field.render) ++ ") \x7b").toList ::
        (s.fields.map setRow ++ [['\x7d']]) := by
  simp only [constructor, Shape.resolveData, List.map_map, List.cons_append, texts_cons,
    texts_append, texts_map, texts_nil]
  rfl

/-- The rows of the fields of a class, with a blank one before them if there is any. -/
theorem texts_fieldLines (base : String) (s : Shape) :
    texts (fieldLines (s.resolveData base)) =
      if s.fields = [] then [] else [] :: s.fields.map fieldRow := by
  rw [fieldLines]
  by_cases hempty : s.fields = []
  · simp [Shape.resolveData, hempty]
  · rw [if_neg (by simpa [Shape.resolveData] using hempty), if_neg hempty]
    simp only [Shape.resolveData, List.map_map, texts_cons, texts_map]
    rfl

/-- The rows of a class tell its fields and where it ends: the constructor sets one field a row. -/
theorem class_inj {base base' : String} {x y : Shape} {middle middle' r r' : List (List Char)}
    (hx : ∀ f ∈ x.fields, IsWord f.identifier.toList)
    (hy : ∀ f ∈ y.fields, IsWord f.identifier.toList) (hmiddle : middle.length = middle'.length)
    (h : texts (constructor (x.resolveData base)) ++
        (middle ++ (texts (fieldLines (x.resolveData base)) ++ r)) =
      texts (constructor (y.resolveData base')) ++
        (middle' ++ (texts (fieldLines (y.resolveData base')) ++ r'))) :
    x.fields = y.fields ∧ r = r' := by
  have hset : ∀ fs : List Field, ∀ row ∈ fs.map setRow, (row == ['\x7d']) = false := by
    intro fs
    simp [setRow]
  rw [texts_constructor, texts_constructor] at h
  simp only [List.cons_append, List.append_assoc, List.nil_append, List.cons.injEq] at h
  -- The brace that closes the constructor tells how many fields are set.
  obtain ⟨hsets, -, hrest⟩ :=
    append_cons_inj (p := (· == ['\x7d'])) (hset _) (by decide) (hset _) (by decide) h.2
  have hlength : x.fields.length = y.fields.length := by simpa using congrArg List.length hsets
  obtain ⟨-, hfields⟩ := List.append_inj hrest hmiddle
  rw [texts_fieldLines, texts_fieldLines] at hfields
  -- A class without fields has no blank row at its end.
  by_cases hempty : x.fields = []
  · have hempty' : y.fields = [] := by simpa [hempty] using hlength.symm
    rw [if_pos hempty, if_pos hempty'] at hfields
    exact ⟨hempty.trans hempty'.symm, hfields⟩
  · have hempty' : y.fields ≠ [] := fun hy => hempty (by simpa [hy] using hlength)
    rw [if_neg hempty, if_neg hempty', List.map_eq_flatMap, List.map_eq_flatMap,
      List.cons_append, List.cons_append] at hfields
    have hitem : ∀ f ∈ x.fields, ∀ g ∈ y.fields, ∀ r r' : List (List Char),
        [fieldRow f] ++ r = [fieldRow g] ++ r' → f = g ∧ r = r' := by
      intro f hf g hg r r' h
      obtain ⟨hrow, hr⟩ := List.cons.inj h
      exact ⟨fieldRow_inj (hx f hf) (hy g hg) hrow, hr⟩
    exact flatMap_append_inj hitem hlength (List.cons.inj hfields).2

/-! An item of a class hierarchy is the class of a declaration. -/

/-- The lines of a declaration. -/
def item (t : ResolvedTable) : Declaration → List Line
  | .shape s    => node t (s.resolve t.base)
  | .dataType d => dataType (d.resolveData t.base)

/-- The end of the row that opens the class of a declaration. -/
def openingEnd (base : String) : Declaration → List Char
  | .shape _    => ("extends " ++ base ++ " \x7b").toList
  | .dataType _ => ['\x7b']

/-- The rows between the constructor and the fields. -/
def acceptRows (base : String) : Declaration → List (List Char)
  | .shape s    => texts (Line.blank :: acceptMethod (s.resolve base))
  | .dataType _ => []

theorem texts_item (t : ResolvedTable) (d : Declaration) :
    texts (item t d) =
      ("static class ".toList ++ (d.body.name.toList ++ ' ' :: openingEnd t.base d)) ::
        (texts (constructor (d.body.resolveData t.base)) ++ (acceptRows t.base d ++
          (texts (fieldLines (d.body.resolveData t.base)) ++ [['\x7d']]))) := by
  cases d with
  | shape s =>
      have hname : (s.resolveData t.base).name = s.name := rfl
      simp [item, node, openingEnd, acceptRows, Declaration.body, Shape.resolve, hname]
  | dataType d =>
      have hname : (d.resolveData t.base).name = d.name := rfl
      simp [item, dataType, openingEnd, acceptRows, Declaration.body, hname]

/-- An item tells its declaration and where it ends. -/
theorem item_inj {t t' : ResolvedTable} {x y : Declaration} (hx : x.Words) (hy : y.Words)
    {r r' : List (List Char)} (h : texts (item t x) ++ r = texts (item t' y) ++ r') :
    x = y ∧ r = r' := by
  rw [texts_item, texts_item] at h
  simp only [List.cons_append, List.append_assoc, List.cons.injEq, List.append_cancel_left_eq] at h
  obtain ⟨hopening, hrest⟩ := h
  obtain ⟨hname, -, hend⟩ := hx.name.append_cons_inj hy.name (by decide) (by decide) hopening
  cases x with
  | shape x =>
      cases y with
      | shape y =>
          have haccept : (acceptRows t.base (.shape x)).length =
              (acceptRows t'.base (.shape y)).length := by
            simp [acceptRows, acceptMethod]
          obtain ⟨hfields, hr⟩ := class_inj hx.identifiers hy.identifiers haccept hrest
          exact ⟨congrArg _ (Shape.eq_of_name_of_fields hname hfields), (List.cons.inj hr).2⟩
      | dataType y => simp [openingEnd] at hend
  | dataType x =>
      cases y with
      | shape y => simp [openingEnd] at hend
      | dataType y =>
          obtain ⟨hfields, hr⟩ := class_inj hx.identifiers hy.identifiers rfl hrest
          exact ⟨congrArg _ (Shape.eq_of_name_of_fields hname hfields), (List.cons.inj hr).2⟩

/-- The rows of a class hierarchy. -/
theorem form_eq {cfg : Config} (htarget : cfg.target = .java) (t : Table) :
    texts (form cfg t.resolve) = texts (preamble cfg t.resolve) ++
      ("abstract class ".toList ++ (t.base.toList ++ ' ' :: ['\x7b'])) ::
        (texts (visitor t.resolve) ++
          (t.declarations.flatMap (fun d => [] :: texts (item t.resolve d)) ++
            [] :: texts (dispatch ++ closing))) := by
  have hitems : (t.resolve.shapes.map (node t.resolve) ++ t.resolve.dataTypes.map dataType).flatMap
      (Line.blank :: ·) = t.declarations.flatMap fun d => Line.blank :: item t.resolve d := by
    simp only [Table.resolve, Table.declarations, List.map_map, List.flatMap_append,
      List.flatMap_map, item]
    rfl
  have hbase : t.resolve.base = t.base := rfl
  rw [form_java htarget, hitems]
  simp [opening, Line.blank, hbase]

/-- **A class hierarchy determines its table.** -/
theorem eq_of_texts_form_eq {cfg : Config} (htarget : cfg.target = .java) {t t' : Table}
    (ht : t.WellFormed) (ht' : t'.WellFormed)
    (h : texts (form cfg t.resolve) = texts (form cfg t'.resolve)) :
    t.base = t'.base ∧ t.declarations = t'.declarations := by
  have hpreamble : ∀ t : Table, ∀ row ∈ texts (preamble cfg t.resolve),
      ("abstract class ".toList.isPrefixOf? row).isSome = false := by
    intro t row hrow
    obtain ⟨l, hl, rfl⟩ := List.mem_map.mp hrow
    rw [(detail_preamble l hl).not_start (by decide) (by decide)]
    rfl
  have hopening : ∀ rest, ("abstract class ".toList.isPrefixOf?
      ("abstract class ".toList ++ rest)).isSome := by
    intro rest
    rw [List.isPrefixOf?_eq_some_iff_append_eq.mpr rfl]
    rfl
  have hvisitor : ∀ t : Table, ∀ row ∈ texts (visitor t.resolve), row ≠ [] := by
    intro t
    simp [visitor, or_imp, forall_and]
  rw [form_eq htarget, form_eq htarget] at h
  -- The imports depend on the types, so the rows before the base class are passed over unread.
  obtain ⟨-, hbase, hrest⟩ := append_cons_inj
    (p := fun row => ("abstract class ".toList.isPrefixOf? row).isSome) (hpreamble t) (hopening _)
    (hpreamble t') (hopening _) h
  obtain ⟨hname, -, -⟩ := ht.words_resolve.base.append_cons_inj ht'.words_resolve.base (by decide)
    (by decide) (List.append_cancel_left hbase)
  refine ⟨String.toList_inj.mp hname, sections_inj (hvisitor t) (hvisitor t') ?_ ?_ ?_ hrest⟩
  · exact fun x hx y hy r r' => item_inj (ht.words_declaration hx) (ht'.words_declaration hy)
  · intro y hy r heq
    rw [texts_item] at heq
    simp [dispatch] at heq
  · intro x hx r heq
    rw [texts_item] at heq
    simp [dispatch] at heq

end ClassHierarchy

/-! ### The tagged union -/

namespace TaggedUnion

/-- The rows of an accessor. -/
def accessorRows (f : Field) : List (List Char) :=
  [[], ("pub fn " ++ written f.identifier ++ "(&self) -> &" ++ f.type ++ " \x7b").toList,
   ("&self." ++ written f.identifier).toList, ['\x7d']]

/-- A field is read back from the rows of its accessor, and what follows them too. -/
theorem accessorRows_inj {f g : Field} (hf : IsWord f.identifier.toList)
    (hg : IsWord g.identifier.toList) {r r' : List (List Char)}
    (h : accessorRows f ++ r = accessorRows g ++ r') : f = g ∧ r = r' := by
  obtain ⟨type, name⟩ := f
  obtain ⟨type', name'⟩ := g
  simp only [accessorRows, List.cons_append, List.nil_append, List.cons.injEq, true_and] at h
  obtain ⟨haccessor, -, hr⟩ := h
  obtain rfl : name = name' := by
    have hread := congrArg method? haccessor
    rw [method?_accessor _ hf, method?_accessor _ hg] at hread
    exact written_inj hf hg (Option.some.inj hread)
  have htype : type.toList = type'.toList := by simpa using haccessor
  rw [String.toList_inj.mp htype]
  exact ⟨rfl, hr⟩

/-- The fields of a declaration with the names by which the document writes them. -/
def namedFields (base : String) (s : Shape) : List NamedField :=
  (s.resolveData base).fields.map NamedField.ofField

theorem texts_accessors (base : String) (s : Shape) :
    texts (accessors (namedFields base s)) = s.fields.flatMap accessorRows := by
  simp only [accessors, namedFields, Shape.resolveData, List.flatMap_map, texts_flatMap]
  rfl

/-- The length of a constructor tells the number of fields. -/
theorem length_constructor (doc base : String) (s : Shape) :
    (constructor doc (namedFields base s)).length = s.fields.length + 5 := by
  simp [constructor, namedFields, Shape.resolveData]

/-! An item of a tagged union is the structure of a declaration with its methods. -/

/-- The lines of a declaration. -/
def item (cfg : Config) (t : ResolvedTable) : Declaration → List Line
  | .shape s    => nodeLines cfg t (s.resolve t.base) (namedFields t.base s)
  | .dataType d => dataTypeLines cfg t (d.resolveData t.base) (namedFields t.base d)

/-- How the comment on a declaration ends. -/
def docEnd : Declaration → String
  | .shape _    => "` node."
  | .dataType _ => "` data."

/-- How the comment on the constructor of a declaration ends. -/
def constructorDocEnd : Declaration → String
  | .shape _    => "` node."
  | .dataType _ => "`."

/-- The lines between the constructor and the accessors. -/
def acceptLines (t : ResolvedTable) : Declaration → List Line
  | .shape s    => Line.blank :: acceptMethod t (s.resolve t.base)
  | .dataType _ => []

/-- The lines after the methods. -/
def endLines (t : ResolvedTable) : Declaration → List Line
  | .shape s    => Line.blank :: conversion t (s.resolve t.base)
  | .dataType _ => []

/-- The lines of a declaration from its structure on. -/
def itemTail (t : ResolvedTable) (d : Declaration) : List Line :=
  ⟨0, "pub struct " ++ d.body.name ++ " \x7b"⟩ ::
    ((d.body.resolveData t.base).fields.map (fieldLine t) ++ ⟨0, "\x7d"⟩ :: Line.blank ::
      ⟨0, "impl " ++ d.body.name ++ " \x7b"⟩ ::
      (constructor ("Creates a new `" ++ d.body.name ++ constructorDocEnd d)
          (namedFields t.base d.body) ++ (acceptLines t d ++
        (accessors (namedFields t.base d.body) ++ ⟨0, "\x7d"⟩ :: endLines t d))))

/-- The lines of a declaration are its comment, its attribute, and a tail that holds its fields. -/
theorem item_eq (cfg : Config) (t : ResolvedTable) (d : Declaration) :
    item cfg t d = ⟨0, "/// " ++ ("`" ++ d.body.name ++ docEnd d)⟩ ::
      (deriveAttribute cfg.derives ++ itemTail t d) := by
  cases d with
  | shape s =>
      have hname : (s.resolve t.base).name = s.name := rfl
      simp only [item, nodeLines, namedFields, structLines_eq, itemTail, acceptLines, endLines,
        docEnd, constructorDocEnd, Declaration.body, hname, List.cons_append, List.append_assoc,
        List.nil_append]
  | dataType d =>
      have hname : (d.resolveData t.base).name = d.name := rfl
      simp only [item, dataTypeLines, namedFields, structLines_eq, itemTail, acceptLines, endLines,
        docEnd, constructorDocEnd, Declaration.body, hname, List.cons_append, List.append_assoc,
        List.nil_append]

/-- The rows of a declaration tell its fields and where it ends: the structure has one row for each
field, and after it the number of fields gives the number of rows. -/
theorem itemTail_inj {t t' : ResolvedTable} {x y : Declaration} (hx : x.Words) (hy : y.Words)
    (haccept : (acceptLines t x).length = (acceptLines t' y).length)
    (hend : (endLines t x).length = (endLines t' y).length) {r r' : List (List Char)}
    (h : texts (itemTail t x) ++ r = texts (itemTail t' y) ++ r') :
    x.body.fields = y.body.fields ∧ r = r' := by
  have hfieldRow : ∀ (t : ResolvedTable) (d : Declaration),
      ∀ row ∈ texts ((d.body.resolveData t.base).fields.map (fieldLine t)),
        (row == ['\x7d']) = false := by
    intro t d
    simp only [texts_map, List.forall_mem_map, beq_eq_false_iff_ne]
    intro f _ heq
    have hcolon : ':' ∈ (fieldLine t f).text.toList := by simp [fieldLine]
    rw [heq] at hcolon
    exact absurd hcolon (by decide)
  simp only [itemTail, texts_cons, texts_append, List.cons_append, List.append_assoc,
    List.cons.injEq] at h
  obtain ⟨hrows, -, hrest⟩ := append_cons_inj (p := (· == ['\x7d'])) (hfieldRow t x) rfl
    (hfieldRow t' y) rfl h.2
  have hlength : x.body.fields.length = y.body.fields.length := by
    simpa [Shape.resolveData] using congrArg List.length hrows
  simp only [List.cons.injEq] at hrest
  obtain ⟨-, hmethods⟩ := List.append_inj hrest.2.2
    (by rw [length_texts, length_texts, length_constructor, length_constructor, hlength])
  obtain ⟨-, haccessors⟩ := List.append_inj hmethods (by rw [length_texts, length_texts, haccept])
  -- The structure stores a node and a boxed node alike, so the types are read in the accessors.
  rw [texts_accessors, texts_accessors] at haccessors
  obtain ⟨hfields, hclosing⟩ := flatMap_append_inj
    (fun f hf g hg r r' => accessorRows_inj (hx.identifiers f hf) (hy.identifiers g hg)) hlength
    haccessors
  obtain ⟨-, hr⟩ := List.append_inj (List.cons.inj hclosing).2
    (by rw [length_texts, length_texts, hend])
  exact ⟨hfields, hr⟩

/-- The rows of a declaration; `derived` are those of the attribute that derives traits. -/
def itemRows (derived : List (List Char)) (t : ResolvedTable) (d : Declaration) :
    List (List Char) :=
  ("/// " ++ ("`" ++ d.body.name ++ docEnd d)).toList :: (derived ++ texts (itemTail t d))

/-- An item tells its declaration and where it ends. -/
theorem item_inj {derived : List (List Char)} {t t' : ResolvedTable} {x y : Declaration}
    (hx : x.Words) (hy : y.Words) {r r' : List (List Char)}
    (h : itemRows derived t x ++ r = itemRows derived t' y ++ r') : x = y ∧ r = r' := by
  have hdoc : ∀ d : Declaration, ("/// " ++ ("`" ++ d.body.name ++ docEnd d)).toList =
      "/// `".toList ++ (d.body.name.toList ++ '`' :: (docEnd d).toList.tail) := by
    intro d
    cases d <;> simp [docEnd]
  rw [itemRows, itemRows, hdoc, hdoc] at h
  simp only [List.cons_append, List.append_assoc, List.cons.injEq, List.append_cancel_left_eq] at h
  obtain ⟨hopening, htail⟩ := h
  obtain ⟨hname, -, hend⟩ := hx.name.append_cons_inj hy.name (by decide) (by decide) hopening
  cases x with
  | shape x =>
      cases y with
      | shape y =>
          obtain ⟨hfields, hr⟩ := itemTail_inj hx hy (by simp [acceptLines, acceptMethod])
            (by simp [endLines, conversion]) htail
          exact ⟨congrArg _ (Shape.eq_of_name_of_fields hname hfields), hr⟩
      | dataType y => simp [docEnd] at hend
  | dataType x =>
      cases y with
      | shape y => simp [docEnd] at hend
      | dataType y =>
          obtain ⟨hfields, hr⟩ := itemTail_inj hx hy rfl rfl htail
          exact ⟨congrArg _ (Shape.eq_of_name_of_fields hname hfields), hr⟩

/-- Every line of an item is plain if every derived trait stands on one line. -/
theorem plain_item {base source : String} {t : Table} (ht : Table.ofSource base source = .ok t)
    {cfg : Config} (hderives : ∀ name ∈ cfg.derives, '\n' ∉ name.toList) {d : Declaration}
    (hd : d ∈ t.declarations) : ∀ l ∈ item cfg t.resolve d, Plain l.text.toList := by
  have hwords := (Table.wellFormed_of_ofDeclarations ht).words_resolve
  obtain ⟨hshapes, hdata⟩ := Table.types_oneLine_resolve ht
  rcases List.mem_append.mp hd with hd | hd
  · obtain ⟨s, hs, rfl⟩ := List.mem_map.mp hd
    have hmem : s.resolve t.base ∈ t.resolve.shapes := List.mem_map_of_mem hs
    exact plain_nodeLines hderives hwords hmem (hshapes _ hmem)
  · obtain ⟨s, hs, rfl⟩ := List.mem_map.mp hd
    have hmem : s.resolveData t.base ∈ t.resolve.dataTypes := List.mem_map_of_mem hs
    exact plain_dataTypeLines hderives hwords.base (hwords.dataTypes _ hmem) (hdata _ hmem)

/-- The rows of a declaration, of which only those of its attribute may not be plain. -/
theorem rowsOf_item {base source : String} {t : Table} (ht : Table.ofSource base source = .ok t)
    {cfg : Config} (hcfg : cfg.Plain) {d : Declaration} (hd : d ∈ t.declarations) :
    rowsOf cfg.indent (item cfg t.resolve d) =
      itemRows (rowsOf cfg.indent (deriveAttribute cfg.derives)) t.resolve d := by
  -- The other lines are those of the item when nothing is derived.
  have hplain : ∀ l ∈ item { cfg with derives := [] } t.resolve d, Plain l.text.toList :=
    plain_item ht (by simp) hd
  rw [item_eq, List.forall_mem_cons, List.forall_mem_append] at hplain
  obtain ⟨hdoc, -, htail⟩ := hplain
  rw [item_eq, rowsOf_cons hcfg.indent hdoc, rowsOf_append, rowsOf_eq_texts hcfg.indent htail]
  rfl

/-- The rows of a tagged union. -/
theorem rowsOf_form {base source : String} {t : Table} (ht : Table.ofSource base source = .ok t)
    {cfg : Config} (htarget : cfg.target = .rust) (hcfg : cfg.Plain) :
    let derived := rowsOf cfg.indent (deriveAttribute cfg.derives)
    rowsOf cfg.indent (form cfg t.resolve) = rowsOf cfg.indent (preamble cfg) ++
      ("/// Any `" ++ t.base ++ "` node.").toList :: (derived ++ (texts (enumLines t.resolve) ++
        [] :: (texts (visitorLines t.resolve (written t.resolve.visitorParameter)) ++
          (t.declarations.flatMap (fun d => [] :: itemRows derived t.resolve d) ++
            [] :: texts (dispatch t.resolve ++ closing))))) := by
  intro derived
  have hwords := (Table.wellFormed_of_ofDeclarations ht).words_resolve
  have hitems : (t.resolve.shapes.map (fun s => nodeLines cfg t.resolve s
        (s.fields.map NamedField.ofField)) ++
      t.resolve.dataTypes.map fun d => dataTypeLines cfg t.resolve d
        (d.fields.map NamedField.ofField)).flatMap (Line.blank :: ·) =
      t.declarations.flatMap fun d => Line.blank :: item cfg t.resolve d := by
    simp only [Table.resolve, Table.declarations, List.map_map, List.flatMap_append,
      List.flatMap_map, item]
    rfl
  have hrows : rowsOf cfg.indent
      (t.declarations.flatMap fun d => Line.blank :: item cfg t.resolve d) =
      t.declarations.flatMap fun d => [] :: itemRows derived t.resolve d := by
    rw [rowsOf_flatMap]
    refine List.flatMap_congr fun d hd => ?_
    rw [rowsOf_cons (l := Line.blank) hcfg.indent plain_nil, rowsOf_item ht hcfg hd]
    rfl
  have hopening : rowsOf cfg.indent (opening cfg t.resolve) =
      ("/// Any `" ++ t.base ++ "` node.").toList ::
        (derived ++ (texts (enumLines t.resolve) ++ [[]])) := by
    have hplain : ∀ l ∈ opening { cfg with derives := [] } t.resolve, Plain l.text.toList :=
      plain_opening (by simp) hwords
    rw [opening_eq, List.cons_append, List.forall_mem_cons, List.forall_mem_append] at hplain
    obtain ⟨hdoc, -, henum⟩ := hplain
    rw [opening_eq, List.cons_append, rowsOf_cons hcfg.indent hdoc, rowsOf_append,
      rowsOf_eq_texts hcfg.indent henum, texts_append]
    rfl
  have hvisitor := rowsOf_eq_texts hcfg.indent (plain_visitorLines hwords)
  have hlast : rowsOf cfg.indent (Line.blank :: (dispatch t.resolve ++ closing)) =
      [] :: texts (dispatch t.resolve ++ closing) := by
    refine rowsOf_eq_texts hcfg.indent (List.forall_mem_cons.mpr ⟨plain_nil,
      List.forall_mem_append.mpr ⟨plain_dispatch hwords, ?_⟩⟩)
    simp [closing, plain_cons, isIndentChar]
  rw [form_rust htarget, hitems]
  simp only [rowsOf_append, hopening, hvisitor, hrows, hlast, List.cons_append, List.append_assoc,
    List.nil_append]

/-- **A tagged union determines its table.** -/
theorem eq_of_rowsOf_form_eq {base source base' source' : String} {t t' : Table}
    (ht : Table.ofSource base source = .ok t) (ht' : Table.ofSource base' source' = .ok t')
    {cfg : Config} (htarget : cfg.target = .rust) (hcfg : cfg.Plain)
    (h : rowsOf cfg.indent (form cfg t.resolve) = rowsOf cfg.indent (form cfg t'.resolve)) :
    t.base = t'.base ∧ t.declarations = t'.declarations := by
  have hwf := Table.wellFormed_of_ofDeclarations ht
  have hwf' := Table.wellFormed_of_ofDeclarations ht'
  have hdoc : ∀ name : String, ("/// Any `" ++ name ++ "` node.").toList =
      "/// Any `".toList ++ (name.toList ++ '`' :: " node.".toList) := by
    simp
  have henum : ∀ t : ResolvedTable, ∀ row ∈ texts (enumLines t), row.isEmpty = false := by
    intro t
    simp [enumLines, variantLine, or_imp, forall_and]
  have hvisitor : ∀ t : ResolvedTable,
      ∀ row ∈ texts (visitorLines t (written t.visitorParameter)), row ≠ [] := by
    intro t
    simp [visitorLines, or_imp, forall_and]
  rw [rowsOf_form ht htarget hcfg, rowsOf_form ht' htarget hcfg] at h
  obtain ⟨hopening, hrest⟩ := List.cons.inj (List.append_cancel_left h)
  rw [hdoc, hdoc] at hopening
  obtain ⟨hbase, -, -⟩ := hwf.words_resolve.base.append_cons_inj hwf'.words_resolve.base (by decide)
    (by decide) (List.append_cancel_left hopening)
  obtain ⟨-, -, hitems⟩ :=
    append_cons_inj (henum _) rfl (henum _) rfl (List.append_cancel_left hrest)
  refine ⟨String.toList_inj.mp hbase, sections_inj (hvisitor _) (hvisitor _) ?_ ?_ ?_ hitems⟩
  · exact fun x hx y hy r r' => item_inj (hwf.words_declaration hx) (hwf'.words_declaration hy)
  · intro y hy r heq
    simp [itemRows, dispatch] at heq
  · intro x hx r heq
    simp [itemRows, dispatch] at heq

end TaggedUnion

/-! ### Both targets -/

/-- Settings that only a tagged union reads play no part in a class hierarchy. -/
theorem ClassHierarchy.rowsOf_form {base source : String} {t : Table}
    (ht : Table.ofSource base source = .ok t) {cfg : Config} (htarget : cfg.target = .java)
    (hcfg : cfg.Plain) :
    rowsOf cfg.indent (form cfg t.resolve) = texts (form cfg t.resolve) := by
  obtain ⟨hshapes, hdata⟩ := Table.types_oneLine_resolve ht
  have hform : form { cfg with derives := [] } t.resolve = form cfg t.resolve := by
    have htarget' : ({ cfg with derives := [] } : Config).target = .java := htarget
    rw [form_java htarget', form_java htarget]
    rfl
  have hplain : ∀ l ∈ form { cfg with derives := [] } t.resolve, Plain l.text.toList :=
    plain_form ⟨⟨hcfg.indent, hcfg.package, hcfg.imports⟩, by simp⟩
      (Table.wellFormed_of_ofDeclarations ht).words_resolve hshapes hdata
  rw [hform] at hplain
  exact rowsOf_eq_texts hcfg.indent hplain

/-- **Nothing of a table is lost** in its document. -/
theorem Table.eq_of_generate_eq {base source base' source' : String} {t t' : Table}
    (ht : Table.ofSource base source = .ok t) (ht' : Table.ofSource base' source' = .ok t')
    {cfg : Config} (hcfg : cfg.Plain) {doc : String} (hdoc : t.generate cfg = .ok doc)
    (hdoc' : t'.generate cfg = .ok doc) : t = t' := by
  obtain ⟨-, hrender⟩ := Table.generate_eq_ok_iff.mp hdoc
  obtain ⟨-, hrender'⟩ := Table.generate_eq_ok_iff.mp hdoc'
  have hrows := rowsOf_eq_of_renderLines_eq (hrender.symm.trans hrender')
  obtain ⟨hbase, hdeclarations⟩ : t.base = t'.base ∧ t.declarations = t'.declarations := by
    cases htarget : cfg.target with
    | java =>
        rw [ClassHierarchy.rowsOf_form ht htarget hcfg,
          ClassHierarchy.rowsOf_form ht' htarget hcfg] at hrows
        exact ClassHierarchy.eq_of_texts_form_eq htarget (Table.wellFormed_of_ofDeclarations ht)
          (Table.wellFormed_of_ofDeclarations ht') hrows
    | rust => exact TaggedUnion.eq_of_rowsOf_form_eq ht ht' htarget hcfg hrows
  -- A table that was read is made by its declarations, so nothing else can differ.
  rw [← (Table.built_of_ofDeclarations ht).foldl_declarations,
    ← (Table.built_of_ofDeclarations ht').foldl_declarations, hbase, hdeclarations]

/-- A field of the base type, which a tagged union stores boxed, beside a data type. -/
def nodeTable : Table :=
  ((Table.empty "Expr").addShape ⟨"Let", [⟨"Expr", "type"⟩]⟩).addDataType ⟨"Pair", []⟩

/-- The same table but for the field, which is boxed already. -/
def boxTable : Table :=
  ((Table.empty "Expr").addShape ⟨"Let", [⟨"Box<Expr>", "type"⟩]⟩).addDataType ⟨"Pair", []⟩

/-- Settings that put line feeds into the header and into the derived traits. -/
def spreadConfig (target : Target) : Config :=
  ⟨target, " \t", some "a", ["b"], some "c\n\nd", ["E,\n  F", "\nG"]⟩

theorem eq_of_generate_eq_nodeTable :
    ∃ t, Table.ofSource "Expr" "struct Pair:\nLet: Expr  type # bound" = .ok t ∧ nodeTable = t ∧
      Table.ofSource "Expr" "Let: Box<Expr> type\nstruct Pair:" = .ok boxTable ∧
      ∀ target,
        nodeTable.generate (spreadConfig target) ≠ boxTable.generate (spreadConfig target) := by
  have hnode : Table.ofSource "Expr" "Let: Expr type\nstruct Pair:" = .ok nodeTable := rfl
  have hbox : Table.ofSource "Expr" "Let: Box<Expr> type\nstruct Pair:" = .ok boxTable := rfl
  have hother : Table.ofSource "Expr" "struct Pair:\nLet: Expr  type # bound" = .ok nodeTable :=
    rfl
  have hcheck : ∀ target, check (spreadConfig target) nodeTable.resolve = .ok ()
    | .java => by decide +kernel
    | .rust => by decide +kernel
  have hplain : ∀ target, (spreadConfig target).Plain := fun target =>
    { indent := by simp [spreadConfig, isIndentChar]
      package := by simp [spreadConfig]
      imports := by simp [spreadConfig] }
  have hdoc : ∀ target, nodeTable.generate (spreadConfig target) = .ok _ := fun target =>
    Table.generate_eq_ok_iff.mpr ⟨hcheck target, rfl⟩
  refine ⟨nodeTable, hother,
    Table.eq_of_generate_eq hnode hother (hplain .rust) (hdoc .rust) (hdoc .rust), hbox,
    fun target heq => ?_⟩
  have htables :=
    Table.eq_of_generate_eq hnode hbox (hplain target) (hdoc target) (heq ▸ hdoc target)
  exact absurd (congrArg (fun t => t.shapes) htables) (by decide)

end AstForge
