import AstForge.Proofs.Table.Parsed
import AstForge.Resolved

/-!
# Tables — looking names up

A table is changed by edits: a shape or a data type is declared, or the base type gets another name.
The index of a table is a second account of its shapes.  It is *faithful* when it sends each name to
the position of the first shape of that name, and to nothing if there is none
(`Table.IndexFaithful`).  Every edit keeps it so, hence every table that is made by edits has a
faithful index, whatever names repeat.

* `Table.lookup_finds_first`: after any edits, each lookup gives the first declaration of the name,
  the resolved table gives the resolution of the same shape, and declared data types change no
  lookup of a shape.
-/

namespace AstForge

/-! ### Edits -/

/-- A change to a table. -/
inductive Edit where
  | addShape (s : Shape)
  | addDataType (d : Shape)
  | rename (base : String)

namespace Edit

/-- The shape that an edit declares. -/
def shape? : Edit → Option Shape
  | .addShape s    => some s
  | .addDataType _ => none
  | .rename _      => none

/-- The data type that an edit declares. -/
def dataType? : Edit → Option Shape
  | .addShape _    => none
  | .addDataType d => some d
  | .rename _      => none

/-- The name that an edit gives to the base type. -/
def base? : Edit → Option String
  | .addShape _    => none
  | .addDataType _ => none
  | .rename base   => some base

/-- The edit that makes a declaration. -/
def ofDeclaration : Declaration → Edit
  | .shape s    => .addShape s
  | .dataType d => .addDataType d

end Edit

namespace Table

/-- Changes a table. -/
def edit (t : Table) : Edit → Table
  | .addShape s    => t.addShape s
  | .addDataType d => t.addDataType d
  | .rename base   => { t with base := base }

/-- Edits add their shapes in order. -/
theorem shapes_foldl_edit (es : List Edit) (t : Table) :
    (es.foldl edit t).shapes.toList = t.shapes.toList ++ es.filterMap Edit.shape? := by
  induction es generalizing t with
  | nil => simp
  | cons e es ih =>
      rw [List.foldl_cons, ih, List.filterMap_cons]
      cases e with
      | addShape s => simp [edit, addShape, Edit.shape?]
      | addDataType d => simp [edit, addDataType, Edit.shape?]
      | rename base => simp [edit, Edit.shape?]

theorem dataTypes_foldl_edit (es : List Edit) (t : Table) :
    (es.foldl edit t).dataTypes.toList = t.dataTypes.toList ++ es.filterMap Edit.dataType? := by
  induction es generalizing t with
  | nil => simp
  | cons e es ih =>
      rw [List.foldl_cons, ih, List.filterMap_cons]
      cases e with
      | addShape s => simp [edit, addShape, Edit.dataType?]
      | addDataType d => simp [edit, addDataType, Edit.dataType?]
      | rename base => simp [edit, Edit.dataType?]

/-- The base type has the name that it was last given. -/
theorem base_foldl_edit (es : List Edit) (t : Table) :
    (es.foldl edit t).base = (es.filterMap Edit.base?).getLastD t.base := by
  induction es generalizing t with
  | nil => rfl
  | cons e es ih =>
      rw [List.foldl_cons, ih, List.filterMap_cons]
      cases e with
      | addShape s => rfl
      | addDataType d => rfl
      | rename base => exact List.getLastD_cons.symm

/-- Declaring is a kind of editing. -/
theorem foldl_declare_eq_foldl_edit (ds : List Declaration) (t : Table) :
    ds.foldl declare t = (ds.map Edit.ofDeclaration).foldl edit t := by
  induction ds generalizing t with
  | nil => rfl
  | cons d ds ih =>
      rw [List.map_cons, List.foldl_cons, List.foldl_cons, ih]
      cases d with
      | shape s => rfl
      | dataType d => rfl

/-! ### The index -/

/-- The index sends each name to the position of the first shape of that name. -/
def IndexFaithful (t : Table) : Prop :=
  ∀ name : String, t.index[name]? = t.shapes.toList.findIdx? (·.name == name)

theorem indexFaithful_empty (base : String) : (empty base).IndexFaithful := by
  intro name
  simp [empty]

namespace IndexFaithful

variable {t : Table} (h : t.IndexFaithful)
include h

/-- A faithful index holds the names of the shapes. -/
theorem mem_index_iff (name : String) : name ∈ t.index ↔ ∃ s ∈ t.shapes.toList, s.name = name := by
  rw [Std.HashMap.mem_iff_isSome_getElem?, h name, List.findIdx?_isSome, List.any_eq_true]
  simp only [beq_iff_eq]

/-- Adding a shape keeps the index faithful, whether its name is new or not. -/
theorem addShape (s : Shape) : (t.addShape s).IndexFaithful := by
  intro name
  have hshapes : (t.addShape s).shapes.toList = t.shapes.toList ++ [s] := Array.toList_push
  rw [hshapes, List.findIdx?_append, Table.addShape, Std.HashMap.getElem?_insertIfNew, ← h name]
  cases hname : t.index[name]? with
  | some i =>
      -- The name is taken, so the new shape is not its first.
      have hmem : name ∈ t.index := by
        rw [Std.HashMap.mem_iff_isSome_getElem?, hname]
        rfl
      have hkept : ¬ ((s.name == name) = true ∧ s.name ∉ t.index) := by
        rintro ⟨heq, hnew⟩
        exact hnew (beq_iff_eq.mp heq ▸ hmem)
      rw [if_neg hkept, Option.some_or]
  | none =>
      have hnew : name ∉ t.index := by
        rw [Std.HashMap.mem_iff_isSome_getElem?, hname]
        simp
      rw [Option.none_or]
      by_cases heq : s.name = name
      · subst heq
        rw [if_pos ⟨beq_self_eq_true _, hnew⟩]
        simp
      · have hother : (s.name == name) = false := beq_eq_false_iff_ne.mpr heq
        simp [hother]

/-- **One edit.**  A data type and a new base type leave both the shapes and the index alone. -/
theorem edit (e : Edit) : (t.edit e).IndexFaithful := by
  cases e with
  | addShape s => exact h.addShape s
  | addDataType d => exact h
  | rename base => exact h

/-- **Any edits.** -/
theorem foldl_edit (es : List Edit) : (es.foldl Table.edit t).IndexFaithful := by
  induction es generalizing t with
  | nil => exact h
  | cons e es ih => exact ih (h.edit e)

/-- What a faithful index gives is in range. -/
theorem lt_size {name : String} {i : Nat} (hi : t.index[name]? = some i) : i < t.shapes.size := by
  rw [h name, List.findIdx?_eq_some_iff_getElem] at hi
  obtain ⟨hlt, -⟩ := hi
  exact Array.length_toList ▸ hlt

/-- The lookup through the index is the search through the list. -/
theorem shape?_eq (name : String) : t.shape? name = t.shapes.toList.find? (·.name == name) := by
  rw [List.find?_eq_bind_findIdx?_getElem?, ← h name, Table.shape?]
  simp only [Array.getElem?_toList]

/-- A name is found when some shape has it. -/
theorem hasShape_iff (name : String) :
    t.hasShape name ↔ ∃ s ∈ t.shapes.toList, s.name = name := by
  rw [← h.mem_index_iff name]
  exact Iff.rfl

theorem hasShape_eq (name : String) : t.hasShape name = (t.shape? name).isSome := by
  rw [Bool.eq_iff_iff, h.hasShape_iff, h.shape?_eq, List.find?_isSome]
  simp only [beq_iff_eq]

/-- Resolving changes no name, so the search through the resolved shapes stops at the same one. -/
theorem shape?_resolve (name : String) :
    t.resolve.shape? name = (t.shape? name).map (Shape.resolve t.base) := by
  rw [h.shape?_eq, ResolvedTable.shape?, Table.resolve, List.find?_map]
  rfl

end IndexFaithful

end Table

/-! ### The first declaration of a name -/

/-- `s` is the first of the declarations `ss` that has the name. -/
def FirstNamed (name : String) (ss : List Shape) (s : Shape) : Prop :=
  s.name = name ∧ ∃ before after, ss = before ++ s :: after ∧ ∀ x ∈ before, x.name ≠ name

/-- A search finds the first shape of a name. -/
theorem find?_eq_some_iff_firstNamed {name : String} {ss : List Shape} {s : Shape} :
    ss.find? (·.name == name) = some s ↔ FirstNamed name ss s := by
  rw [List.find?_eq_some_iff_append, FirstNamed]
  simp only [beq_iff_eq, Bool.not_eq_eq_eq_not, Bool.not_true, beq_eq_false_iff_ne]

/-- If all names differ, each shape is the first of its name. -/
theorem firstNamed_of_nodup {ss : List Shape} (h : (ss.map (·.name)).Nodup) {s : Shape}
    (hs : s ∈ ss) : FirstNamed s.name ss s := by
  obtain ⟨before, after, rfl⟩ := List.append_of_mem hs
  refine ⟨rfl, before, after, rfl, fun x hx heq => ?_⟩
  rw [List.map_append, List.map_cons, List.nodup_append] at h
  exact h.2.2 x.name (List.mem_map_of_mem hx) s.name List.mem_cons_self heq

namespace Table

/-- What the lookups of a name give: the first declarations of that name. -/
structure FindsFirst (t : Table) (name : String) : Prop where
  in_range : ∀ i, t.index[name]? = some i → i < t.shapes.size
  shape : ∀ s, t.shape? name = some s ↔ FirstNamed name t.shapes.toList s
  has : t.hasShape name ↔ ∃ s ∈ t.shapes.toList, s.name = name
  dataType : ∀ d, t.dataType? name = some d ↔ FirstNamed name t.dataTypes.toList d
  resolved : t.resolve.shape? name = (t.shape? name).map (Shape.resolve t.base)

/-- **Lookup by a faithful index** finds the first shape of a name. -/
theorem IndexFaithful.findsFirst {t : Table} (h : t.IndexFaithful) (name : String) :
    t.FindsFirst name where
  in_range _ hi := h.lt_size hi
  shape _ := by rw [h.shape?_eq, find?_eq_some_iff_firstNamed]
  has := h.hasShape_iff name
  dataType _ := find?_eq_some_iff_firstNamed
  resolved := h.shape?_resolve name

/-- The index of a table that was read is faithful. -/
theorem indexFaithful_of_ofDeclarations {base : String} {texts : List String} {t : Table}
    (h : ofDeclarations base texts = .ok t) : t.IndexFaithful := by
  obtain ⟨ds, -, rfl, -⟩ := ofDeclarations_eq_ok_iff.mp h
  rw [foldl_declare_eq_foldl_edit]
  exact (indexFaithful_empty _).foldl_edit _

/-- A table that was read repeats no name, so each shape is the first of its name. -/
theorem shape?_name_of_ofDeclarations {base : String} {texts : List String} {t : Table}
    (h : ofDeclarations base texts = .ok t) {s : Shape} (hs : s ∈ t.shapes.toList) :
    t.shape? s.name = some s := by
  have hnodup := (validate_eq_ok_iff.mp (wellFormed_of_ofDeclarations h).valid).nodup
  rw [declaredShapes, List.map_append] at hnodup
  exact (((indexFaithful_of_ofDeclarations h).findsFirst s.name).shape s).mpr
    (firstNamed_of_nodup (List.nodup_append.mp hnodup).1 hs)

/-- The shapes that edits declare decide the lookups of shapes. -/
theorem shape_lookups_eq {es es' : List Edit}
    (h : es.filterMap Edit.shape? = es'.filterMap Edit.shape?) (base base' name : String) :
    (es.foldl edit (empty base)).shape? name = (es'.foldl edit (empty base')).shape? name ∧
      (es.foldl edit (empty base)).hasShape name =
        (es'.foldl edit (empty base')).hasShape name := by
  have hes := (indexFaithful_empty base).foldl_edit es
  have hes' := (indexFaithful_empty base').foldl_edit es'
  have hshape : (es.foldl edit (empty base)).shape? name =
      (es'.foldl edit (empty base')).shape? name := by
    rw [hes.shape?_eq, hes'.shape?_eq, shapes_foldl_edit, shapes_foldl_edit, h]
    rfl
  exact ⟨hshape, by rw [hes.hasShape_eq, hes'.hasShape_eq, hshape]⟩

/-- **Lookups find the first declaration.**  A table made by edits has the shapes and data types in
the order in which they were declared, and the name that its base type was given last.  Each lookup
of a name gives the first declaration of that name, the index never points outside of the shapes,
and the resolved table gives the resolution of the same shape.  Without the edits that declare data
types, the lookups of shapes give the same.  In a table that was read, each shape is found under its
own name. -/
theorem lookup_finds_first (base : String) (es : List Edit) (name : String) :
    let t := es.foldl edit (empty base)
    let shapesOnly := (es.filter (·.dataType?.isNone)).foldl edit (empty base)
    t.shapes.toList = es.filterMap Edit.shape? ∧
      t.dataTypes.toList = es.filterMap Edit.dataType? ∧
      t.base = (es.filterMap Edit.base?).getLastD base ∧
      t.FindsFirst name ∧
      (shapesOnly.shape? name = t.shape? name ∧ shapesOnly.hasShape name = t.hasShape name) ∧
      ∀ texts read, ofDeclarations base texts = .ok read →
        read.FindsFirst name ∧ ∀ s ∈ read.shapes.toList, read.shape? s.name = some s := by
  intro t shapesOnly
  have hfaithful : t.IndexFaithful := (indexFaithful_empty base).foldl_edit es
  have herased : (es.filter (·.dataType?.isNone)).filterMap Edit.shape? =
      es.filterMap Edit.shape? := by
    rw [List.filterMap_filter]
    refine List.filterMap_congr fun e _ => ?_
    cases e with
    | addShape s => rfl
    | addDataType d => rfl
    | rename base => rfl
  refine ⟨shapes_foldl_edit es _, dataTypes_foldl_edit es _, base_foldl_edit es _,
    hfaithful.findsFirst name, shape_lookups_eq herased base base name, fun texts read hread => ?_⟩
  exact ⟨(indexFaithful_of_ofDeclarations hread).findsFirst name,
    fun s hs => shape?_name_of_ofDeclarations hread hs⟩

end Table

/-- Two shapes and a data type of one name, with a new base type in between. -/
def repeatedName : List Edit :=
  [.addDataType ⟨"This", []⟩, .addShape ⟨"This", [⟨"Token", "keyword"⟩]⟩, .rename "Stmt",
    .addShape ⟨"This", []⟩]

/-- The first shape is found, and resolved under the new base type. -/
theorem lookup_finds_first_repeatedName :
    let t := repeatedName.foldl Table.edit (Table.empty "Expr")
    t.shape? "This" = some ⟨"This", [⟨"Token", "keyword"⟩]⟩ ∧
      t.dataType? "This" = some ⟨"This", []⟩ ∧
      (t.resolve.shape? "This").map (·.visitMethod) = some "visitThisStmt" ∧
      ∃ read, Table.ofDeclarations "Expr" ["This : Token keyword", "struct Name :"] = .ok read ∧
        ∀ s ∈ read.shapes.toList, read.shape? s.name = some s := by
  intro t
  obtain ⟨-, -, -, hfinds, -, hread⟩ := Table.lookup_finds_first "Expr" repeatedName "This"
  have hshape : t.shape? "This" = some ⟨"This", [⟨"Token", "keyword"⟩]⟩ :=
    (hfinds.shape _).mpr ⟨rfl, [], [⟨"This", []⟩], rfl, by simp⟩
  have hdata : t.dataType? "This" = some ⟨"This", []⟩ :=
    (hfinds.dataType _).mpr ⟨rfl, [], [], rfl, by simp⟩
  have hresolved := hfinds.resolved
  have hsource : Table.ofDeclarations "Expr" ["This : Token keyword", "struct Name :"] = .ok _ :=
    rfl
  refine ⟨hshape, hdata, ?_, _, hsource, (hread _ _ hsource).2⟩
  rw [hresolved, hshape]
  rfl

end AstForge
