import AstForge.Proofs.Declaration.Grammar
import AstForge.Proofs.Table.Valid
import AstForge.Proofs.Text.Lines
import AstForge.Table.Source

/-!
# Tables — what reading a table gives

A table that was read is *well formed* (`wellFormed_of_ofDeclarations`): it is valid, and the fields
of each declaration can stand together.  Every later fact about a table that was read starts here.
A table read from a text has, besides, types that each stand on one line
(`types_oneLine_of_ofSource`).

Declaring is a fold over the declarations.  Shapes and data types are kept apart, so the order in
which the two kinds alternate does not matter (`foldl_declare_eq`).
-/

namespace AstForge

open Text

/-! ### Declaring -/

/-- The name and the fields that a declaration declares. -/
def Declaration.body : Declaration → Shape
  | .shape s    => s
  | .dataType d => d

/-- The shape that a declaration declares. -/
def Declaration.shape? : Declaration → Option Shape
  | .shape s    => some s
  | .dataType _ => none

/-- The data type that a declaration declares. -/
def Declaration.dataType? : Declaration → Option Shape
  | .shape _    => none
  | .dataType d => some d

namespace Table

/-- Declaring does not change the base type. -/
theorem base_foldl_declare (ds : List Declaration) (t : Table) :
    (ds.foldl declare t).base = t.base := by
  induction ds generalizing t with
  | nil => rfl
  | cons d ds ih =>
      rw [List.foldl_cons, ih]
      cases d <;> rfl

/-- Declarations add their shapes in order. -/
theorem shapes_foldl_declare (ds : List Declaration) (t : Table) :
    (ds.foldl declare t).shapes.toList = t.shapes.toList ++ ds.filterMap Declaration.shape? := by
  induction ds generalizing t with
  | nil => simp
  | cons d ds ih =>
      rw [List.foldl_cons, ih]
      cases d with
      | shape s => simp [declare, addShape, Declaration.shape?]
      | dataType d => simp [declare, addDataType, List.filterMap_cons, Declaration.shape?]

theorem dataTypes_foldl_declare (ds : List Declaration) (t : Table) :
    (ds.foldl declare t).dataTypes.toList =
      t.dataTypes.toList ++ ds.filterMap Declaration.dataType? := by
  induction ds generalizing t with
  | nil => simp
  | cons d ds ih =>
      rw [List.foldl_cons, ih]
      cases d with
      | shape s => simp [declare, addShape, List.filterMap_cons, Declaration.dataType?]
      | dataType d => simp [declare, addDataType, Declaration.dataType?]

/-- The declarations of a table, shapes first. -/
def declarations (t : Table) : List Declaration :=
  t.shapes.toList.map .shape ++ t.dataTypes.toList.map .dataType

/-- A data type may be declared after the shapes that follow it. -/
theorem foldl_declare_dataType (ss : List Shape) (d : Shape) (t : Table) :
    (ss.map Declaration.shape).foldl declare (t.declare (.dataType d)) =
      ((ss.map Declaration.shape).foldl declare t).declare (.dataType d) := by
  induction ss generalizing t with
  | nil => rfl
  | cons s ss ih => exact ih (t.addShape s)

/-- Declaring the shapes first and then the data types makes the same table. -/
theorem foldl_declare_eq (ds : List Declaration) (t : Table) :
    ds.foldl declare t =
      ((ds.filterMap Declaration.shape?).map Declaration.shape ++
        (ds.filterMap Declaration.dataType?).map Declaration.dataType).foldl declare t := by
  induction ds generalizing t with
  | nil => rfl
  | cons d ds ih =>
      rw [List.foldl_cons, ih]
      cases d with
      | shape s => rfl
      | dataType d =>
          -- The data type moves past the shapes that are declared after it.
          have hs : (Declaration.dataType d :: ds).filterMap Declaration.shape? =
              ds.filterMap Declaration.shape? := rfl
          have hd : (Declaration.dataType d :: ds).filterMap Declaration.dataType? =
              d :: ds.filterMap Declaration.dataType? := rfl
          rw [hs, hd, List.foldl_append, List.foldl_append, List.map_cons, List.foldl_cons,
            foldl_declare_dataType]

/-- The table was made by declaring, from one that declares nothing. -/
def Built (t : Table) : Prop :=
  ∃ ds : List Declaration, t = ds.foldl declare (empty t.base)

/-- A table that was made by declaring is made again by its own declarations. -/
theorem Built.foldl_declarations {t : Table} (h : t.Built) :
    t.declarations.foldl declare (empty t.base) = t := by
  obtain ⟨ds, hds⟩ := h
  have hshapes : t.shapes.toList = ds.filterMap Declaration.shape? := by
    rw [hds, shapes_foldl_declare]
    rfl
  have hdata : t.dataTypes.toList = ds.filterMap Declaration.dataType? := by
    rw [hds, dataTypes_foldl_declare]
    rfl
  rw [declarations, hshapes, hdata, ← foldl_declare_eq, ← hds]

/-! ### Reading -/

/-- A table is read when each declaration is and the table they make is valid. -/
theorem ofDeclarations_eq_ok_iff {base : String} {texts : List String} {t : Table} :
    ofDeclarations base texts = .ok t ↔
      ∃ ds, List.Forall₂ (fun text d => Declaration.parse text = .ok d) texts ds ∧
        t = ds.foldl declare (empty (String.ofList (trim base.toList))) ∧
        t.validate = .ok () := by
  rw [ofDeclarations, bind_eq_ok_iff]
  simp only [mapError_eq_ok_iff, mapM_eq_ok_iff]
  constructor
  · rintro ⟨ds, hds, h⟩
    obtain ⟨hv, ht⟩ := check_bind_eq_ok_iff.mp h
    obtain rfl := Except.ok.inj ht
    exact ⟨ds, hds, rfl, hv⟩
  · rintro ⟨ds, hds, rfl, hv⟩
    exact ⟨ds, hds, check_bind_eq_ok_iff.mpr ⟨hv, rfl⟩⟩

/-- A table that was read is built by declaring. -/
theorem built_of_ofDeclarations {base : String} {texts : List String} {t : Table}
    (h : ofDeclarations base texts = .ok t) : t.Built := by
  obtain ⟨ds, -, rfl, -⟩ := ofDeclarations_eq_ok_iff.mp h
  refine ⟨ds, ?_⟩
  rw [base_foldl_declare]
  rfl

end Table

/-- A declaration is one of a data type when it starts with the word for it and a blank. -/
theorem dataBody?_eq_some_iff {cs rest : List Char} :
    dataBody? cs = some rest ↔
      trimStart cs = dataKeyword.toList ++ rest ∧ ∃ c ∈ rest.head?, isBlank c := by
  rw [dataBody?]
  constructor
  · intro h
    split at h
    · next rest' hs =>
        split at h
        · next hb =>
            obtain rfl := Option.some.inj h
            exact ⟨(List.append_eq_of_isPrefixOf?_eq_some hs).symm,
              by simpa [Option.any_eq_true] using hb⟩
        · cases h
    · cases h
  · rintro ⟨hs, hb⟩
    rw [List.isPrefixOf?_eq_some_iff_append_eq.mpr hs.symm]
    exact if_pos (by simpa [Option.any_eq_true] using hb)

/-- What a declaration declares is read from a part of its text. -/
theorem Declaration.exists_of_parse {text : String} {d : Declaration}
    (h : Declaration.parse text = .ok d) :
    ∃ cs, (∀ c ∈ cs, c ∈ text.toList) ∧ Shape.ofChars cs = .ok d.body := by
  rw [Declaration.parse] at h
  split at h
  · next body hbody =>
      obtain ⟨s, hs, h⟩ := bind_eq_ok_iff.mp h
      obtain rfl := Except.ok.inj h
      refine ⟨body, fun c hc => ?_, hs⟩
      obtain ⟨w, -, htext, -⟩ := trimStart_spec text.toList
      rw [htext, (dataBody?_eq_some_iff.mp hbody).1]
      simp [hc]
  · obtain ⟨s, hs, h⟩ := bind_eq_ok_iff.mp h
    obtain rfl := Except.ok.inj h
    exact ⟨text.toList, fun _ hc => hc, hs⟩

/-! ### Well-formed tables -/

/-- The table is valid, and the fields of each declaration can stand together. -/
structure Table.WellFormed (t : Table) : Prop where
  valid : t.validate = .ok ()
  fields : ∀ s ∈ t.declaredShapes, WellFormedFields s.fields

/-- Every declared shape or data type comes from a declaration. -/
theorem Table.exists_of_mem_declaredShapes {base : String} {ds : List Declaration} {s : Shape}
    (h : s ∈ (ds.foldl Table.declare (Table.empty base)).declaredShapes) :
    ∃ d ∈ ds, d.body = s := by
  rw [Table.declaredShapes, Table.shapes_foldl_declare, Table.dataTypes_foldl_declare] at h
  simp only [Table.empty, List.nil_append, List.mem_append, List.mem_filterMap] at h
  rcases h with ⟨d, hd, hs⟩ | ⟨d, hd, hs⟩
  · cases d with
    | shape s' => exact ⟨_, hd, Option.some.inj hs⟩
    | dataType d' => cases hs
  · cases d with
    | shape s' => cases hs
    | dataType d' => exact ⟨_, hd, Option.some.inj hs⟩

/-- Each declaration of a table that was read comes from one of the texts. -/
theorem Table.exists_text_of_ofDeclarations {base : String} {texts : List String} {t : Table}
    (h : Table.ofDeclarations base texts = .ok t) {s : Shape} (hs : s ∈ t.declaredShapes) :
    ∃ text ∈ texts, ∃ cs, (∀ c ∈ cs, c ∈ text.toList) ∧ Shape.ofChars cs = .ok s := by
  obtain ⟨ds, hds, rfl, -⟩ := Table.ofDeclarations_eq_ok_iff.mp h
  obtain ⟨d, hd, rfl⟩ := Table.exists_of_mem_declaredShapes hs
  obtain ⟨text, htext, hparse⟩ := exists_of_mem_forall₂ hds hd
  exact ⟨text, htext, Declaration.exists_of_parse hparse⟩

/-- **A table that was read is well formed.** -/
theorem Table.wellFormed_of_ofDeclarations {base : String} {texts : List String} {t : Table}
    (h : Table.ofDeclarations base texts = .ok t) : t.WellFormed := by
  refine ⟨?_, fun s hs => ?_⟩
  · obtain ⟨ds, -, -, hv⟩ := Table.ofDeclarations_eq_ok_iff.mp h
    exact hv
  · obtain ⟨text, -, cs, -, hread⟩ := Table.exists_text_of_ofDeclarations h hs
    exact (Shape.ofChars_eq_ok_iff.mp hread).1

/-- The declarations of a text hold no line feed. -/
theorem newline_notMem_of_mem_sourceDeclarations {source text : String}
    (h : text ∈ sourceDeclarations source) : '\n' ∉ text.toList := by
  simp only [sourceDeclarations, List.mem_map, List.mem_filter] at h
  obtain ⟨cs, ⟨⟨line, hline, rfl⟩, -⟩, rfl⟩ := h
  rw [String.toList_ofList]
  intro hm
  have hm := mem_of_mem_trim hm
  refine newline_notMem_of_mem_lines hline ?_
  rw [dropComment] at hm
  split at hm
  · next code rest hs =>
      obtain ⟨c, -, hl, -⟩ := splitFirst_eq_some_iff.mp hs
      rw [hl]
      exact List.mem_append_left _ hm
  · exact hm

/-- **The types of a table that was read from a text stand on one line each.** -/
theorem Table.types_oneLine_of_ofSource {base source : String} {t : Table}
    (h : Table.ofSource base source = .ok t) :
    ∀ s ∈ t.declaredShapes, ∀ f ∈ s.fields, '\n' ∉ f.type.toList := by
  intro s hs f hf hm
  obtain ⟨text, htext, cs, hcs, hread⟩ := Table.exists_text_of_ofDeclarations h hs
  obtain ⟨-, before, list, rfl, -, -, hw⟩ := Shape.ofChars_eq_ok_iff.mp hread
  refine newline_notMem_of_mem_sourceDeclarations htext (hcs _ ?_)
  exact List.mem_append_right _ (List.mem_cons_of_mem _ (hw.mem_of_mem_type hf hm))

end AstForge
