import AstForge.Proofs.Table.Parsed

/-!
# Tables — printing and reading again

A declaration is printed as `Name: Type field, Type field`, with `struct` in front for a data type,
and a table as its shapes and then its data types.

* `Declaration.render_spec`: a printed declaration of a well-formed table is read back, also when
  the blanks at its ends are trimmed away.
* `Table.ofDeclarations_of_parse`: then so is the table.  Reading gives only well-formed tables, so
  well-formedness is exactly the image of reading.
* `Table.sourceDeclarations_printed`: the same holds of the printed lines as one text, when no type
  holds a line feed or a `#`.
-/

namespace AstForge

open Text

/-! ### Printing -/

/-- The text of a name and its fields. -/
def Shape.render (s : Shape) : String :=
  s.name ++ ": " ++ ", ".intercalate (s.fields.map Field.render)

/-- The text of a declaration. -/
def Declaration.render : Declaration → String
  | .shape s    => s.render
  | .dataType d => dataKeyword ++ " " ++ d.render

/-- The declarations of a table, printed. -/
def Table.printed (t : Table) : List String :=
  t.declarations.map Declaration.render

/-! ### A printed field list writes its fields -/

theorem FieldsWrittenAs.cons_blank {fs : List Field} {cs : List Char} {c : Char}
    (hc : isBlank c) (h : FieldsWrittenAs fs cs) : FieldsWrittenAs fs (c :: cs) := by
  rcases h with ⟨rfl, hblank⟩ | ⟨hne, ps, hw, rfl⟩
  · exact .inl ⟨rfl, List.forall_mem_cons.mpr ⟨hc, hblank⟩⟩
  · cases hw with
    | nil => exact absurd rfl hne
    | @cons f p fs ps hf hrest =>
        obtain ⟨w, v, w', hw, hv, hvne, hw', rfl⟩ := hf
        refine .inr ⟨hne, (c :: (w ++ (f.type.toList ++ v ++ f.identifier.toList) ++ w')) :: ps,
          .cons ⟨c :: w, v, w', List.forall_mem_cons.mpr ⟨hc, hw⟩, hv, hvne, hw', rfl⟩ hrest, ?_⟩
        cases ps with
        | nil => simp
        | cons q ps => simp [List.intercalate_cons_cons]

/-- A comma parts a written field from those after it. -/
theorem FieldsWrittenAs.cons {f : Field} {fs : List Field} {p cs : List Char}
    (hf : f.WrittenAs p) (hne : fs ≠ []) (h : FieldsWrittenAs fs cs) :
    FieldsWrittenAs (f :: fs) (p ++ ',' :: cs) := by
  obtain ⟨-, ps, hw, rfl⟩ := h.resolve_left fun h => hne h.1
  have hps : ps ≠ [] := by
    rintro rfl
    exact hne (List.forall₂_nil_right_iff.mp hw)
  refine .inr ⟨by simp, p :: ps, .cons hf hw, ?_⟩
  rw [List.intercalate_cons_of_ne_nil hps]
  simp

theorem Field.writtenAs_render (f : Field) : f.WrittenAs f.render.toList :=
  ⟨[], [' '], [], by simp, isBlank_of_mem_space, by simp, by simp, by simp [Field.render]⟩

/-- Printed fields are a way to write them. -/
theorem fieldsWrittenAs_render (fs : List Field) :
    FieldsWrittenAs fs ([',', ' '].intercalate (fs.map fun f => f.render.toList)) := by
  induction fs with
  | nil => exact .inl ⟨rfl, by simp⟩
  | cons f fs ih =>
      cases fs with
      | nil => exact .inr ⟨by simp, [f.render.toList], .cons f.writtenAs_render .nil, by simp⟩
      | cons g fs =>
          have h := FieldsWrittenAs.cons f.writtenAs_render (by simp)
            (ih.cons_blank (c := ' ') (by decide))
          simpa [List.intercalate_cons_cons] using h

/-! ### A printed declaration is read -/

theorem Shape.toList_render (s : Shape) :
    s.render.toList =
      s.name.toList ++ ':' :: ' ' ::
        [',', ' '].intercalate (s.fields.map fun f => f.render.toList) := by
  simp [Shape.render, String.toList_intercalate, Function.comp_def]

theorem isIdentifierRest_of_isBlank {c : Char} (h : isBlank c) : isIdentifierRest c = false := by
  by_contra hr
  rw [isBlank_of_isIdentifierRest (by simpa using hr)] at h
  cases h

/-- The word that marks a data type is not taken off a name, unless a blank ends the name and the
name is that word. -/
theorem dataBody?_eq_none {name : List Char} (h : isIdentifier name) {c : Char}
    (hc : isIdentifierRest c = false) (hname : isBlank c → name ≠ dataKeyword.toList)
    (rest : List Char) : dataBody? (name ++ c :: rest) = none := by
  have hword := isWord_of_isIdentifier h
  cases hb : dataBody? (name ++ c :: rest) with
  | none => rfl
  | some body =>
      obtain ⟨hs, d, hd, hblank⟩ := dataBody?_eq_some_iff.mp hb
      obtain ⟨body, rfl⟩ := List.head?_eq_some_iff.mp hd
      have hhead : ∀ d ∈ (name ++ c :: rest).head?, isBlank d = false := by
        rw [List.head?_append_of_ne_nil _ (ne_nil_of_isIdentifier h)]
        exact hword.trimmed.head
      rw [trimStart_eq_self hhead] at hs
      obtain ⟨hkeyword, rfl, -⟩ := hword.append_cons_inj (by decide) hc
        (isIdentifierRest_of_isBlank hblank) hs
      exact absurd hkeyword (hname hblank)

/-- The word that marks a data type is not taken off a shape, whatever its name: a colon ends the
name, and not a blank. -/
theorem dataBody?_of_isIdentifier {name : List Char} (h : isIdentifier name) (list : List Char) :
    dataBody? (name ++ ':' :: list) = none :=
  dataBody?_eq_none h (by decide) (fun hblank => absurd hblank (by decide)) list

/-- The word for data types and a blank mark a data type. -/
theorem dataBody?_keyword {c : Char} (hc : isBlank c) (rest : List Char) :
    dataBody? (dataKeyword.toList ++ c :: rest) = some (c :: rest) :=
  dataBody?_eq_some_iff.mpr
    ⟨trimStart_eq_self fun _ hd => (Option.some.inj hd) ▸ by decide, c, rfl, hc⟩

/-- Any way to write a shape is read as the shape. -/
theorem Declaration.parse_shape {s : Shape} (hid : isIdentifier s.name.toList)
    (hwf : WellFormedFields s.fields) {list : List Char} (hw : FieldsWrittenAs s.fields list) :
    Declaration.parse (String.ofList (s.name.toList ++ ':' :: list)) = .ok (.shape s) := by
  have hword := isWord_of_isIdentifier hid
  have hread : Shape.ofChars (s.name.toList ++ ':' :: list) = .ok s :=
    Shape.ofChars_eq_ok_iff.mpr
      ⟨hwf, _, _, rfl, hword.notMem (by decide), hword.trimmed.trim_eq, hw⟩
  rw [Declaration.parse, String.toList_ofList, dataBody?_of_isIdentifier hid]
  exact bind_eq_ok_iff.mpr ⟨s, hread, rfl⟩

/-- Any way to write a data type is read as the data type. -/
theorem Declaration.parse_dataType {s : Shape} (hid : isIdentifier s.name.toList)
    (hwf : WellFormedFields s.fields) {list : List Char} (hw : FieldsWrittenAs s.fields list) :
    Declaration.parse
        (String.ofList (dataKeyword.toList ++ ' ' :: (s.name.toList ++ ':' :: list))) =
      .ok (.dataType s) := by
  have hword := isWord_of_isIdentifier hid
  have htrim : trim (' ' :: s.name.toList) = s.name.toList :=
    trim_eq_iff.mpr ⟨hword.trimmed, [' '], [], isBlank_of_mem_space, by simp, by simp⟩
  have hcolon : ':' ∉ ' ' :: s.name.toList := by
    simpa using hword.notMem (by decide)
  have hread : Shape.ofChars (' ' :: (s.name.toList ++ ':' :: list)) = .ok s :=
    Shape.ofChars_eq_ok_iff.mpr ⟨hwf, ' ' :: s.name.toList, list, rfl, hcolon, htrim, hw⟩
  rw [Declaration.parse, String.toList_ofList, dataBody?_keyword (by decide)]
  exact bind_eq_ok_iff.mpr ⟨s, hread, rfl⟩

/-! ### The ends of a printed declaration -/

/-- Printed fields do not end with a blank. -/
theorem getLast?_intercalate_render {fs : List Field} (hne : fs ≠ [])
    (hr : ∀ f ∈ fs, f.Readable) :
    ∃ c, ([',', ' '].intercalate (fs.map fun f => f.render.toList)).getLast? = some c ∧
      isBlank c = false := by
  -- The list ends as its last identifier does; the fields before it only stand in front.
  induction fs with
  | nil => exact absurd rfl hne
  | cons f fs ih =>
      cases fs with
      | nil =>
          have hf := hr f List.mem_cons_self
          have hid := ne_nil_of_isIdentifier hf.isIdentifier
          have hlast := List.getLast?_eq_some_getLast hid
          refine ⟨f.identifier.toList.getLast hid, ?_, hf.isWord.trimmed.last _ hlast⟩
          rw [List.map_singleton, List.intercalate_singleton, Field.render, String.toList_append,
            List.getLast?_append_of_ne_nil _ hid, hlast]
      | cons g fs =>
          obtain ⟨c, hc, hblank⟩ := ih (by simp) fun x hx => hr x (List.mem_cons_of_mem _ hx)
          refine ⟨c, ?_, hblank⟩
          rw [List.map_cons, List.map_cons, List.intercalate_cons_cons, List.getLast?_append]
          rw [List.map_cons] at hc
          rw [hc, Option.some_or]

/-- A printed shape is a trimmed text that writes the shape, and one blank more if it has no
fields. -/
theorem Shape.render_spec {s : Shape} (hwf : WellFormedFields s.fields) :
    ∃ list w, s.render.toList = s.name.toList ++ ':' :: (list ++ w) ∧
      FieldsWrittenAs s.fields list ∧ FieldsWrittenAs s.fields (list ++ w) ∧
      (∀ c ∈ (':' :: list).getLast?, isBlank c = false) ∧ (w = [] ∨ w = [' ']) := by
  by_cases hne : s.fields = []
  · refine ⟨[], [' '], ?_, .inl ⟨hne, by simp⟩, .inl ⟨hne, isBlank_of_mem_space⟩,
      fun c hc => (Option.some.inj hc) ▸ by decide, .inr rfl⟩
    rw [Shape.toList_render, hne]
    rfl
  · obtain ⟨c, hc, hblank⟩ := getLast?_intercalate_render hne hwf.readable
    have hw := (fieldsWrittenAs_render s.fields).cons_blank (c := ' ') (by decide)
    refine ⟨_, [], by rw [Shape.toList_render, List.append_nil], hw, by rwa [List.append_nil],
      fun d hd => ?_, .inl rfl⟩
    rw [List.getLast?_cons_cons, List.getLast?_cons, hc] at hd
    obtain rfl : c = d := by simpa using hd
    exact hblank

/-- A printed declaration is read; without the blanks at its end it is a trimmed text, which is read
as well. -/
theorem Declaration.exists_core_render {d : Declaration}
    (hid : isIdentifier d.body.name.toList) (hwf : WellFormedFields d.body.fields) :
    Declaration.parse d.render = .ok d ∧
      ∃ core w, d.render.toList = core ++ w ∧ Trimmed core ∧ core ≠ [] ∧ (w = [] ∨ w = [' ']) ∧
        Declaration.parse (String.ofList core) = .ok d := by
  obtain ⟨list, w, hrender, hlist, hfull, hlast, hw⟩ := Shape.render_spec hwf
  cases d with
  | shape s =>
      have hid : isIdentifier s.name.toList := hid
      refine ⟨?_, s.name.toList ++ ':' :: list, w, ?_, ⟨?_, ?_⟩, by simp, hw,
        Declaration.parse_shape hid hwf hlist⟩
      · rw [← String.ofList_toList (s := (Declaration.shape s).render)]
        exact hrender ▸ Declaration.parse_shape hid hwf hfull
      · rw [List.append_assoc]
        exact hrender
      · rw [List.head?_append_of_ne_nil _ (ne_nil_of_isIdentifier hid)]
        exact (isWord_of_isIdentifier hid).trimmed.head
      · rw [List.getLast?_append_of_ne_nil _ (by simp)]
        exact hlast
  | dataType s =>
      have hdata : (Declaration.dataType s).render.toList =
          dataKeyword.toList ++ ' ' :: (s.name.toList ++ ':' :: (list ++ w)) := by
        have hs : s.render.toList = s.name.toList ++ ':' :: (list ++ w) := hrender
        simp [Declaration.render, hs]
      refine ⟨?_, dataKeyword.toList ++ ' ' :: (s.name.toList ++ ':' :: list), w, ?_, ⟨?_, ?_⟩,
        by simp, hw, Declaration.parse_dataType hid hwf hlist⟩
      · rw [← String.ofList_toList (s := (Declaration.dataType s).render), hdata]
        exact Declaration.parse_dataType hid hwf hfull
      · rw [hdata]
        simp
      · exact fun c hc => (Option.some.inj hc) ▸ by decide
      · rw [List.getLast?_append_of_ne_nil _ (by simp), ← List.cons_append,
          List.getLast?_append_of_ne_nil _ (by simp)]
        exact hlast

/-- **A printed declaration is read**, also when the blanks at its ends are trimmed away; then it is
not empty, and it ends with no carriage return. -/
theorem Declaration.render_spec {d : Declaration} (hid : isIdentifier d.body.name.toList)
    (hwf : WellFormedFields d.body.fields) :
    Declaration.parse d.render = .ok d ∧
      Declaration.parse (String.ofList (trim d.render.toList)) = .ok d ∧
      trim d.render.toList ≠ [] ∧ d.render.toList.getLast? ≠ some '\r' := by
  obtain ⟨hparse, core, w, hrender, htrimmed, hne, hw, hcore⟩ :=
    Declaration.exists_core_render hid hwf
  have hblank : ∀ c ∈ w, isBlank c := by
    rcases hw with rfl | rfl
    · simp
    · exact isBlank_of_mem_space
  rw [trim_eq_iff.mpr ⟨htrimmed, [], w, by simp, hblank, hrender⟩]
  refine ⟨hparse, hcore, hne, ?_⟩
  rw [hrender]
  rcases hw with rfl | rfl
  · rw [List.append_nil]
    exact fun hlast => absurd (htrimmed.last '\r' hlast) (by decide)
  · rw [List.getLast?_append_of_ne_nil _ (by simp)]
    decide

/-! ### The characters of a printed declaration -/

/-- A character that is in no name, no type and no separator is not in the printed shape. -/
theorem Shape.notMem_render {s : Shape} {c : Char} (hid : isIdentifier s.name.toList)
    (hwf : WellFormedFields s.fields) (hc : isIdentifierRest c = false)
    (hsep : c ∉ [':', ' ', ',']) (htypes : ∀ f ∈ s.fields, c ∉ f.type.toList) :
    c ∉ s.render.toList := by
  simp only [List.mem_cons, List.not_mem_nil, or_false, not_or] at hsep
  obtain ⟨hcolon, hblank, hcomma⟩ := hsep
  have hname := (isWord_of_isIdentifier hid).notMem hc
  rw [Shape.toList_render]
  simp only [List.mem_append, List.mem_cons, not_or]
  refine ⟨hname, hcolon, hblank, fun hm => ?_⟩
  rcases mem_of_mem_intercalate hm with hm | ⟨l, hl, hm⟩
  · simp [hcomma, hblank] at hm
  · obtain ⟨f, hf, rfl⟩ := List.mem_map.mp hl
    have hident := (hwf.readable f hf).isWord.notMem hc
    simp [Field.render, htypes f hf, hident, hblank] at hm

theorem Declaration.notMem_render {d : Declaration} {c : Char}
    (hid : isIdentifier d.body.name.toList) (hwf : WellFormedFields d.body.fields)
    (hc : isIdentifierRest c = false) (hsep : c ∉ [':', ' ', ','])
    (htypes : ∀ f ∈ d.body.fields, c ∉ f.type.toList) : c ∉ d.render.toList := by
  have hbody := Shape.notMem_render hid hwf hc hsep htypes
  cases d with
  | shape s => exact hbody
  | dataType s =>
      have hkeyword : IsWord dataKeyword.toList := by decide
      have hblank : c ≠ ' ' := fun h => hsep (by simp [h])
      have hbody : c ∉ s.render.toList := hbody
      simp [Declaration.render, hkeyword.notMem hc, hblank, hbody]

/-! ### Tables -/

/-- What a table's declarations declare is declared in the table. -/
theorem Table.body_mem_declaredShapes {t : Table} {d : Declaration} (h : d ∈ t.declarations) :
    d.body ∈ t.declaredShapes := by
  simp only [Table.declarations, List.mem_append, List.mem_map] at h
  rw [Table.declaredShapes, List.mem_append]
  rcases h with ⟨s, hs, rfl⟩ | ⟨s, hs, rfl⟩
  · exact .inl hs
  · exact .inr hs

/-- The table that the declarations of `t` make: the same base type and declarations. -/
def Table.rebuilt (t : Table) : Table :=
  t.declarations.foldl Table.declare (Table.empty t.base)

theorem Table.rebuilt_base (t : Table) : t.rebuilt.base = t.base :=
  Table.base_foldl_declare _ _

theorem Table.rebuilt_shapes (t : Table) : t.rebuilt.shapes = t.shapes := by
  apply Array.toList_inj.mp
  rw [Table.rebuilt, Table.shapes_foldl_declare]
  simp [Table.declarations, Table.empty, List.filterMap_map, Function.comp_def,
    Declaration.shape?]

theorem Table.rebuilt_dataTypes (t : Table) : t.rebuilt.dataTypes = t.dataTypes := by
  apply Array.toList_inj.mp
  rw [Table.rebuilt, Table.dataTypes_foldl_declare]
  simp [Table.declarations, Table.empty, List.filterMap_map, Function.comp_def,
    Declaration.dataType?]

/-- A table and the one that its declarations build are valid alike. -/
theorem Table.validate_rebuilt (t : Table) : t.rebuilt.validate = t.validate := by
  simp only [Table.validate, Table.declared, t.rebuilt_base, t.rebuilt_shapes,
    t.rebuilt_dataTypes]

/-- Texts that are read as the declarations of a well-formed table make that table again. -/
theorem Table.ofDeclarations_of_parse {t : Table} (h : t.WellFormed) {texts : List String}
    (hread : List.Forall₂ (fun text d => Declaration.parse text = .ok d) texts t.declarations) :
    Table.ofDeclarations t.base texts = .ok t.rebuilt := by
  have hbase := (isWord_of_isIdentifier (Table.validate_eq_ok_iff.mp h.valid).base).trimmed.trim_eq
  refine Table.ofDeclarations_eq_ok_iff.mpr ⟨_, hread, ?_, t.validate_rebuilt ▸ h.valid⟩
  rw [hbase, String.ofList_toList]
  rfl

/-- Lines that hold no line feed and no comment are the declarations of the text they make. -/
theorem sourceDeclarations_joined {ls : List String}
    (hnl : ∀ l ∈ ls, '\n' ∉ l.toList) (hcomment : ∀ l ∈ ls, '#' ∉ l.toList)
    (hreturn : ∀ l ∈ ls, l.toList.getLast? ≠ some '\r') (hne : ∀ l ∈ ls, trim l.toList ≠ []) :
    sourceDeclarations ("\n".intercalate ls) = ls.map fun l => String.ofList (trim l.toList) := by
  have hcode : ∀ l ∈ ls, dropComment l.toList = l.toList := by
    intro l hl
    have hs : splitFirst (· == '#') l.toList = none :=
      splitFirst_eq_none_iff.mpr (beq_eq_false_of_notMem (hcomment l hl))
    rw [dropComment, hs]
  have hlines : lines ("\n".intercalate ls).toList = ls.map String.toList := by
    rw [String.toList_intercalate]
    refine lines_joined ?_ ?_ ?_ <;> rw [List.forall_mem_map]
    · exact hnl
    · exact fun l hl h => hne l hl (by rw [h]; rfl)
    · exact hreturn
  have hkeep : ∀ cs ∈ ls.map (fun l => trim (dropComment l.toList)), (!cs.isEmpty) = true := by
    rw [List.forall_mem_map]
    intro l hl
    simpa [hcode l hl] using hne l hl
  rw [sourceDeclarations, hlines, List.map_map]
  rw [show ((fun line => trim (dropComment line)) ∘ String.toList) =
    fun l : String => trim (dropComment l.toList) from rfl, List.filter_eq_self.mpr hkeep,
    List.map_map]
  exact List.map_congr_left fun l hl => by simp [hcode l hl]

/-- No type holds a line feed or the sign that starts a comment. -/
def Table.TypesPlain (t : Table) : Prop :=
  ∀ s ∈ t.declaredShapes, ∀ f ∈ s.fields, '\n' ∉ f.type.toList ∧ '#' ∉ f.type.toList

instance (t : Table) : Decidable t.TypesPlain :=
  inferInstanceAs (Decidable (∀ s ∈ t.declaredShapes, ∀ f ∈ s.fields,
    '\n' ∉ f.type.toList ∧ '#' ∉ f.type.toList))

/-- What is known of each declaration of a well-formed table. -/
theorem Table.WellFormed.declaration {t : Table} (h : t.WellFormed) {d : Declaration}
    (hd : d ∈ t.declarations) :
    isIdentifier d.body.name.toList ∧ WellFormedFields d.body.fields :=
  have hbody := Table.body_mem_declaredShapes hd
  ⟨(Table.validate_eq_ok_iff.mp h.valid).names _ hbody, h.fields _ hbody⟩

/-- The printed lines of a well-formed table make a text with these declarations, trimmed. -/
theorem Table.sourceDeclarations_printed {t : Table} (h : t.WellFormed) (hplain : t.TypesPlain) :
    sourceDeclarations ("\n".intercalate t.printed) =
      t.printed.map fun l => String.ofList (trim l.toList) := by
  have htypes : ∀ d ∈ t.declarations, ∀ f ∈ d.body.fields,
      '\n' ∉ f.type.toList ∧ '#' ∉ f.type.toList :=
    fun d hd => hplain _ (Table.body_mem_declaredShapes hd)
  refine sourceDeclarations_joined ?_ ?_ ?_ ?_ <;> rw [Table.printed, List.forall_mem_map] <;>
    intro d hd <;> obtain ⟨hid, hwf⟩ := h.declaration hd
  · exact Declaration.notMem_render hid hwf (by decide) (by decide) fun f hf => (htypes d hd f hf).1
  · exact Declaration.notMem_render hid hwf (by decide) (by decide) fun f hf => (htypes d hd f hf).2
  · exact (Declaration.render_spec hid hwf).2.2.2
  · exact (Declaration.render_spec hid hwf).2.2.1

/-- **Reading has an exact image and undoes printing.**  Every table that is read is well formed;
and a well-formed table is read back from its printed declarations, and from the text of their
lines if no type holds a line feed or a `#`.  What is read back has the same base type, shapes and
data types, and is the same table if that one was made by declaring. -/
theorem Table.parse_wellFormed_and_parse_printed :
    (∀ (base : String) (texts : List String) (t : Table),
      Table.ofDeclarations base texts = .ok t → t.WellFormed) ∧
    ∀ t : Table, t.WellFormed →
      ∃ t', Table.ofDeclarations t.base t.printed = .ok t' ∧
        t'.base = t.base ∧ t'.shapes = t.shapes ∧ t'.dataTypes = t.dataTypes ∧
        (t.Built → t' = t) ∧
        (t.TypesPlain → Table.ofSource t.base ("\n".intercalate t.printed) = .ok t') := by
  refine ⟨fun _ _ _ h => Table.wellFormed_of_ofDeclarations h, fun t h => ?_⟩
  refine ⟨t.rebuilt, Table.ofDeclarations_of_parse h ?_, t.rebuilt_base, t.rebuilt_shapes,
    t.rebuilt_dataTypes, Table.Built.foldl_declarations, fun hplain => ?_⟩
  · rw [Table.printed, List.forall₂_map_left_iff, List.forall₂_same]
    intro d hd
    obtain ⟨hid, hwf⟩ := h.declaration hd
    exact (Declaration.render_spec hid hwf).1
  · rw [Table.ofSource, Table.sourceDeclarations_printed h hplain]
    refine Table.ofDeclarations_of_parse h ?_
    rw [Table.printed, List.map_map, List.forall₂_map_left_iff, List.forall₂_same]
    intro d hd
    obtain ⟨hid, hwf⟩ := h.declaration hd
    exact (Declaration.render_spec hid hwf).2.1

/-- A shape named like the word that marks a data type, with a comma inside brackets, a colon and a
blank inside a type, and a bracket that stays open in the last type. -/
def awkwardTable : Table :=
  [Declaration.shape
      ⟨"struct", [⟨"Map<String, Expr>", "entries"⟩, ⟨"a : b", "c"⟩, ⟨"List<", "rest"⟩]⟩,
    Declaration.dataType ⟨"structure", []⟩].foldl Table.declare (Table.empty "Expr")

theorem parse_printed_awkwardTable :
    awkwardTable.WellFormed ∧ awkwardTable.Built ∧ awkwardTable.TypesPlain ∧
      Table.ofSource "Expr"
        "struct: Map<String, Expr> entries, a : b c, List< rest\nstruct structure: " =
          .ok awkwardTable := by
  have hwf : awkwardTable.WellFormed := Table.parse_wellFormed_and_parse_printed.1 " Expr "
    ["struct:Map<String, Expr>  entries,a : b c , List< rest", " struct structure :"] _ rfl
  have hbuilt : awkwardTable.Built := ⟨_, rfl⟩
  have hplain : awkwardTable.TypesPlain := by decide
  obtain ⟨t', -, -, -, -, heq, hsource⟩ :=
    Table.parse_wellFormed_and_parse_printed.2 awkwardTable hwf
  obtain rfl := heq hbuilt
  exact ⟨hwf, hbuilt, hplain, hsource hplain⟩

end AstForge
