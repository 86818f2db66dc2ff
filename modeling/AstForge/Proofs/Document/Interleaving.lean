import AstForge.Generate
import AstForge.Proofs.Table.Fault
import AstForge.Proofs.Table.Parsed

/-!
# Documents — declarations of the two kinds, interleaved

A table declares shapes and data types in one list, in which the two kinds may alternate in any way.
Every declaration is read before the table is validated, so the first malformed one is reported
whatever else is wrong.  If there is none, shapes and data types go their own ways: the table, the
fault it is refused with and the document depend on the list of the shapes and the list of the data
types alone.

* `Declaration.parse_eq`: a declaration is read as its body is; the word in front tells its kind.
* `mapM_filter_of_parse`: the declarations of one kind are read from the texts of that kind.
* `Table.ofDeclarations_of_interleaved`: so lists that differ by how the kinds alternate make the
  same table, or are refused alike.
* `ofDeclarations_depends_on_subsequences`: the whole, with the document.
-/

namespace AstForge

open Text

/-! ### The kind of a declaration -/

/-- Whether the text declares a data type. -/
def declaresDataType (text : String) : Bool :=
  (dataBody? text.toList).isSome

/-- The text without the word that marks a data type, if that word stands in front. -/
def declaredBody (text : String) : String :=
  match dataBody? text.toList with
  | some body => String.ofList body
  | none => text

/-- The declaration of a data type or of a shape. -/
def Declaration.ofBody (isDataType : Bool) (s : Shape) : Declaration :=
  if isDataType then .dataType s else .shape s

/-- **One declaration**: its text without the word for data types is read as a shape. -/
theorem Declaration.parse_eq (text : String) :
    Declaration.parse text =
      (Shape.parse (declaredBody text)).map (Declaration.ofBody (declaresDataType text)) := by
  rw [Declaration.parse, declaredBody, declaresDataType]
  cases hbody : dataBody? text.toList with
  | none =>
      dsimp only
      rw [Shape.parse]
      cases Shape.ofChars text.toList <;> rfl
  | some body =>
      dsimp only
      rw [Shape.parse, String.toList_ofList]
      cases Shape.ofChars body <;> rfl

/-- A declaration is malformed when this shape is, and for the same reason. -/
theorem Declaration.parse_eq_error_iff {text : String} {e : ReadError} :
    Declaration.parse text = .error e ↔ Shape.parse (declaredBody text) = .error e := by
  rw [Declaration.parse_eq, map_eq_error_iff]

theorem Declaration.exists_parse_eq_ok_iff {text : String} :
    (∃ d, Declaration.parse text = .ok d) ↔ ∃ s, Shape.parse (declaredBody text) = .ok s := by
  simp only [Declaration.parse_eq, map_eq_ok_iff]
  exact ⟨fun ⟨_, s, hs, _⟩ => ⟨s, hs⟩, fun ⟨s, hs⟩ => ⟨_, s, hs, rfl⟩⟩

/-! ### Malformed declarations -/

/-- `e` is why the first malformed declaration among `texts` cannot be read. -/
def FirstMalformed (texts : List String) (e : ReadError) : Prop :=
  ∃ before text after, texts = before ++ text :: after ∧
    (∀ earlier ∈ before, ∃ s, Shape.parse (declaredBody earlier) = .ok s) ∧
    Shape.parse (declaredBody text) = .error e

/-- Reading declarations fails at the first malformed one. -/
theorem mapM_parse_eq_error_iff {texts : List String} {e : ReadError} :
    texts.mapM Declaration.parse = .error e ↔ FirstMalformed texts e := by
  simp only [mapM_eq_error_iff, FirstMalformed, Declaration.parse_eq_error_iff,
    Declaration.exists_parse_eq_ok_iff]

/-- A table is built from declarations that are all read, and then checked. -/
theorem Table.ofDeclarations_of_mapM {base : String} {texts : List String} {ds : List Declaration}
    (h : texts.mapM Declaration.parse = .ok ds) :
    Table.ofDeclarations base texts = (do
      let table := ds.foldl Table.declare (Table.empty (String.ofList (trim base.toList)))
      table.validate
      return table) := by
  rw [Table.ofDeclarations, h]
  rfl

/-- **A table is refused for its text** exactly when a declaration is malformed, and then for the
first such one. -/
theorem Table.ofDeclarations_eq_read_iff {base : String} {texts : List String} {e : ReadError} :
    Table.ofDeclarations base texts = .error (.read e) ↔ FirstMalformed texts e := by
  rw [Table.ofDeclarations, bind_eq_error_iff, mapError_eq_error_iff, ← mapM_parse_eq_error_iff]
  constructor
  · rintro (⟨e', hread, he⟩ | ⟨ds, -, hvalid⟩)
    · rwa [← TableError.read.inj he]
    · -- What validation reports is no error of reading.
      refine absurd hvalid (bind_ne_error (Table.validate_ne_read _ e) fun _ h => ?_)
      cases h
  · exact fun hread => .inl ⟨e, hread, rfl⟩

/-- If some declaration is malformed, there is a first one. -/
theorem exists_firstMalformed {texts : List String}
    (h : ∃ text ∈ texts, ∀ s, Shape.parse (declaredBody text) ≠ .ok s) :
    ∃ e, FirstMalformed texts e := by
  obtain ⟨text, htext, hmalformed⟩ := h
  cases hread : texts.mapM Declaration.parse with
  | error e => exact ⟨e, mapM_parse_eq_error_iff.mp hread⟩
  | ok ds =>
      -- Where all declarations are read, so is the malformed one.
      obtain ⟨d, -, hd⟩ := exists_of_mem_forall₂ (mapM_eq_ok_iff.mp hread).flip htext
      obtain ⟨s, hs⟩ := Declaration.exists_parse_eq_ok_iff.mp ⟨d, hd⟩
      exact absurd hs (hmalformed s)

/-! ### Interleaving -/

/-- The lists hold the same declarations of shapes in the same order and the same declarations of
data types in the same order; the two kinds may alternate in different ways. -/
structure Interleaved (texts texts' : List String) : Prop where
  shapes : texts.filter (!declaresDataType ·) = texts'.filter (!declaresDataType ·)
  dataTypes : texts.filter declaresDataType = texts'.filter declaresDataType

theorem Interleaved.mem_of_mem {texts texts' : List String} (h : Interleaved texts texts')
    {text : String} (htext : text ∈ texts') : text ∈ texts := by
  cases hkind : declaresDataType text with
  | true =>
      have hmem : text ∈ texts.filter declaresDataType := by
        rw [h.dataTypes]
        exact List.mem_filter.mpr ⟨htext, hkind⟩
      exact List.mem_of_mem_filter hmem
  | false =>
      have hmem : text ∈ texts.filter (!declaresDataType ·) := by
        rw [h.shapes]
        exact List.mem_filter.mpr ⟨htext, by simp [hkind]⟩
      exact List.mem_of_mem_filter hmem

/-- The declarations of one kind are read from the texts of that kind, whatever stands between. -/
theorem mapM_filter_of_parse {kind : String → Bool} {pick : Declaration → Option Shape}
    (hpick : ∀ text s, pick (.ofBody (declaresDataType text) s) =
      if kind text then some s else none)
    {texts : List String} {ds : List Declaration} (h : texts.mapM Declaration.parse = .ok ds) :
    (texts.filter kind).mapM (fun text => Shape.parse (declaredBody text)) =
      .ok (ds.filterMap pick) := by
  rw [mapM_eq_ok_iff] at h ⊢
  induction h with
  | nil => exact .nil
  | @cons text d texts ds hd _ ih =>
      rw [Declaration.parse_eq, map_eq_ok_iff] at hd
      obtain ⟨s, hs, rfl⟩ := hd
      rw [List.filterMap_cons, hpick]
      cases hkind : kind text with
      | true =>
          rw [List.filter_cons_of_pos hkind]
          exact .cons hs ih
      | false =>
          rw [List.filter_cons_of_neg (by simp [hkind])]
          exact ih

/-- A text declares a shape unless it declares a data type. -/
theorem shape?_ofBody (text : String) (s : Shape) :
    (Declaration.ofBody (declaresDataType text) s).shape? =
      if !declaresDataType text then some s else none := by
  cases declaresDataType text <;> rfl

theorem dataType?_ofBody (text : String) (s : Shape) :
    (Declaration.ofBody (declaresDataType text) s).dataType? =
      if declaresDataType text then some s else none := by
  cases declaresDataType text <;> rfl

/-- Texts of the same kinds declare the same, and so does a table. -/
theorem Interleaved.foldl_declare_eq {texts texts' : List String} (h : Interleaved texts texts')
    {ds ds' : List Declaration} (hread : texts.mapM Declaration.parse = .ok ds)
    (hread' : texts'.mapM Declaration.parse = .ok ds') (t : Table) :
    ds'.foldl Table.declare t = ds.foldl Table.declare t := by
  have hshapes : ds'.filterMap Declaration.shape? = ds.filterMap Declaration.shape? := by
    have hs := mapM_filter_of_parse shape?_ofBody hread
    rw [h.shapes, mapM_filter_of_parse shape?_ofBody hread'] at hs
    exact Except.ok.inj hs
  have hdata : ds'.filterMap Declaration.dataType? = ds.filterMap Declaration.dataType? := by
    have hd := mapM_filter_of_parse dataType?_ofBody hread
    rw [h.dataTypes, mapM_filter_of_parse dataType?_ofBody hread'] at hd
    exact Except.ok.inj hd
  rw [Table.foldl_declare_eq ds', Table.foldl_declare_eq ds, hshapes, hdata]

/-- Declarations that can each be read can be read together. -/
theorem exists_mapM_parse {texts : List String}
    (h : ∀ text ∈ texts, ∃ s, Shape.parse (declaredBody text) = .ok s) :
    ∃ ds, texts.mapM Declaration.parse = .ok ds := by
  cases hread : texts.mapM Declaration.parse with
  | ok ds => exact ⟨ds, rfl⟩
  | error e =>
      obtain ⟨before, text, after, rfl, -, hmalformed⟩ := mapM_parse_eq_error_iff.mp hread
      obtain ⟨s, hs⟩ := h text (by simp)
      rw [hs] at hmalformed
      cases hmalformed

/-- **How shapes and data types alternate does not matter**: the same table is read, or the table is
refused for the same fault. -/
theorem Table.ofDeclarations_of_interleaved {base : String} {texts texts' : List String}
    (hread : ∀ text ∈ texts, ∃ s, Shape.parse (declaredBody text) = .ok s)
    (h : Interleaved texts texts') :
    Table.ofDeclarations base texts' = Table.ofDeclarations base texts := by
  obtain ⟨ds, hds⟩ := exists_mapM_parse hread
  obtain ⟨ds', hds'⟩ := exists_mapM_parse fun text htext => hread text (h.mem_of_mem htext)
  rw [Table.ofDeclarations_of_mapM hds', Table.ofDeclarations_of_mapM hds,
    h.foldl_declare_eq hds hds']

/-- **Reading depends on the two lists of declarations alone.**  If a declaration is malformed, the
first such one is reported, and nothing else is.  If none is, every list that interleaves the same
shapes and the same data types is read alike and gives the same document. -/
theorem ofDeclarations_depends_on_subsequences (base : String) (texts : List String) :
    (∀ e, Table.ofDeclarations base texts = .error (.read e) ↔ FirstMalformed texts e) ∧
    ((∃ text ∈ texts, ∀ s, Shape.parse (declaredBody text) ≠ .ok s) →
      ∃ e, FirstMalformed texts e) ∧
    ((∀ text ∈ texts, ∃ s, Shape.parse (declaredBody text) = .ok s) →
      ∀ texts', Interleaved texts texts' →
        Table.ofDeclarations base texts' = Table.ofDeclarations base texts ∧
        ∀ cfg, generateFromDeclarations base texts' cfg =
          generateFromDeclarations base texts cfg) := by
  refine ⟨fun e => Table.ofDeclarations_eq_read_iff, exists_firstMalformed,
    fun hread texts' h => ?_⟩
  have htable : Table.ofDeclarations base texts' = Table.ofDeclarations base texts :=
    Table.ofDeclarations_of_interleaved hread h
  refine ⟨htable, fun cfg => ?_⟩
  rw [generateFromDeclarations, generateFromDeclarations, htable]

/-- A data type between two shapes. -/
def mixedTexts : List String :=
  ["Call : Expr callee, Span span", "struct Span : u32 start", "This :"]

/-- The same declarations with the data type in front. -/
def sortedTexts : List String :=
  ["struct Span : u32 start", "Call : Expr callee, Span span", "This :"]

/-- Two shapes of one name before a data type without fields. -/
def malformedTexts : List String :=
  ["This :", "This :", "struct Span"]

theorem ofDeclarations_depends_on_subsequences_mixedTexts :
    Table.ofDeclarations "Expr" sortedTexts = Table.ofDeclarations "Expr" mixedTexts ∧
      (∀ cfg, generateFromDeclarations "Expr" sortedTexts cfg =
        generateFromDeclarations "Expr" mixedTexts cfg) ∧
      (∃ e, FirstMalformed malformedTexts e) ∧
      Table.ofDeclarations "Expr" malformedTexts = .error (.read (.malformedShape "Span")) := by
  have hread : ∀ text ∈ mixedTexts, ∃ s, Shape.parse (declaredBody text) = .ok s := by
    simp only [mixedTexts, List.forall_mem_cons, List.not_mem_nil, false_imp_iff, implies_true,
      and_true]
    exact ⟨⟨_, rfl⟩, ⟨_, rfl⟩, ⟨_, rfl⟩⟩
  have hinterleaved : Interleaved mixedTexts sortedTexts := ⟨by decide, by decide⟩
  obtain ⟨htable, hdocument⟩ :=
    (ofDeclarations_depends_on_subsequences "Expr" mixedTexts).2.2 hread _ hinterleaved
  have hmalformed : ∃ text ∈ malformedTexts, ∀ s, Shape.parse (declaredBody text) ≠ .ok s := by
    refine ⟨"struct Span", by decide, fun s hs => ?_⟩
    cases hs
  obtain ⟨hread', hexists, -⟩ := ofDeclarations_depends_on_subsequences "Expr" malformedTexts
  refine ⟨htable, hdocument, hexists hmalformed, (hread' _).mpr ?_⟩
  refine ⟨["This :", "This :"], "struct Span", [], rfl, ?_, by decide⟩
  simp only [List.forall_mem_cons, List.not_mem_nil, false_imp_iff, implies_true, and_true]
  exact ⟨⟨_, rfl⟩, ⟨_, rfl⟩⟩

end AstForge
