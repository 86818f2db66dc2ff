import AstForge.Proofs.Table.RoundTrip

/-!
# Tables — blanks before the colon

The name of a declaration is trimmed, so blanks before the colon are not part of it.  There is one
name that they change: the word that marks a data type is told from a name by the blank after it.

* `Declaration.parse_blanks_before_colon`: any other name is read alike with blanks and without.
* `Declaration.parse_keyword_eq_ok_iff`: that word, with blanks before the colon, declares a data
  type without a name.
* `Table.blanks_before_colon_ignored`: so a table is read alike, or has such a data type and is
  refused.
-/

namespace AstForge

open Text

/-- Blanks before the colon are not part of a shape's name. -/
theorem Shape.ofChars_blanks_before_colon {before w : List Char} (hbefore : ':' ∉ before)
    (hw : ∀ c ∈ w, isBlank c) (list : List Char) :
    Shape.ofChars (before ++ w ++ ':' :: list) = Shape.ofChars (before ++ ':' :: list) := by
  have hcolon : ':' ∉ before ++ w := by
    rw [List.mem_append, not_or]
    exact ⟨hbefore, fun hm => absurd (hw _ hm) (by decide)⟩
  rw [Shape.ofChars_append_colon hcolon, Shape.ofChars_append_colon hbefore,
    trim_append_blanks hw]

/-- **A name that is not the word for data types** is read alike with blanks after it. -/
theorem Declaration.parse_blanks_before_colon {name w : String} (hname : isIdentifier name.toList)
    (hw : ∀ c ∈ w.toList, isBlank c) (hkeyword : name = dataKeyword → w = "") (list : String) :
    Declaration.parse (name ++ w ++ ":" ++ list) = Declaration.parse (name ++ ":" ++ list) := by
  have hcolon : ':' ∉ name.toList := (isWord_of_isIdentifier hname).notMem (by decide)
  have htext : (name ++ w ++ ":" ++ list).toList =
      name.toList ++ w.toList ++ ':' :: list.toList := by simp
  have htext' : (name ++ ":" ++ list).toList = name.toList ++ ':' :: list.toList := by simp
  have hbody : dataBody? (name.toList ++ w.toList ++ ':' :: list.toList) = none := by
    cases hcs : w.toList with
    | nil =>
        rw [List.append_nil]
        exact dataBody?_of_isIdentifier hname list.toList
    | cons c cs =>
        have hblank : isBlank c := hw c (by simp [hcs])
        rw [List.append_assoc]
        refine dataBody?_eq_none hname (isIdentifierRest_of_isBlank hblank) (fun _ he => ?_) _
        rw [hkeyword (String.toList_injective he)] at hcs
        cases hcs
  rw [Declaration.parse, Declaration.parse, htext, htext', hbody,
    dataBody?_of_isIdentifier hname, Shape.ofChars_blanks_before_colon hcolon hw]

/-- A shape that has blanks alone before the colon is read with an empty name. -/
theorem Shape.ofChars_blank_name {w : List Char} (hw : ∀ c ∈ w, isBlank c) (list : List Char) :
    Shape.ofChars (w ++ ':' :: list) =
      (splitFields list).mapM (Field.ofChars "") >>= fun fields => .ok ⟨"", fields⟩ := by
  have hcolon : ':' ∉ w := fun hm => absurd (hw _ hm) (by decide)
  rw [Shape.ofChars_append_colon hcolon, trim_eq_nil_iff.mpr hw]
  rfl

/-- **The word for data types**, with blanks before the colon, declares a data type without a name,
if the fields can be read. -/
theorem Declaration.parse_keyword_eq_ok_iff {w list : String} (hw : ∀ c ∈ w.toList, isBlank c)
    (hne : w ≠ "") {d : Declaration} :
    Declaration.parse (dataKeyword ++ w ++ ":" ++ list) = .ok d ↔
      ∃ fields, (splitFields list.toList).mapM (Field.ofChars "") = .ok fields ∧
        d = .dataType ⟨"", fields⟩ := by
  have htext : (dataKeyword ++ w ++ ":" ++ list).toList =
      dataKeyword.toList ++ (w.toList ++ ':' :: list.toList) := by simp
  have hbody : dataBody? (dataKeyword.toList ++ (w.toList ++ ':' :: list.toList)) =
      some (w.toList ++ ':' :: list.toList) := by
    obtain ⟨c, cs, hcs⟩ := List.exists_cons_of_ne_nil (mt String.toList_eq_nil_iff.mp hne)
    rw [hcs, List.cons_append]
    exact dataBody?_keyword (hw c (by simp [hcs])) _
  rw [Declaration.parse, htext, hbody]
  constructor
  · intro h
    obtain ⟨s, hs, h⟩ := bind_eq_ok_iff.mp h
    obtain ⟨fields, hfields, hs⟩ :=
      bind_eq_ok_iff.mp ((Shape.ofChars_blank_name hw list.toList).symm.trans hs)
    obtain rfl := Except.ok.inj hs
    exact ⟨fields, hfields, (Except.ok.inj h).symm⟩
  · rintro ⟨fields, hfields, rfl⟩
    refine bind_eq_ok_iff.mpr ⟨⟨"", fields⟩, ?_, rfl⟩
    rw [Shape.ofChars_blank_name hw, hfields]
    rfl

/-! ### Tables -/

/-- A table depends on its texts by what is read from each. -/
theorem Table.ofDeclarations_of_parse_eq {text text' : String}
    (h : Declaration.parse text = Declaration.parse text') (base : String)
    (before after : List String) :
    Table.ofDeclarations base (before ++ text :: after) =
      Table.ofDeclarations base (before ++ text' :: after) := by
  have hread : (before ++ text :: after).mapM Declaration.parse =
      (before ++ text' :: after).mapM Declaration.parse := by
    rw [List.mapM_append, List.mapM_append, List.mapM_cons, List.mapM_cons, h]
  rw [Table.ofDeclarations, Table.ofDeclarations, hread]

/-- What is declared is found in the table. -/
theorem Table.body_mem_declaredShapes_foldl {ds : List Declaration} {d : Declaration}
    (h : d ∈ ds) (t : Table) : d.body ∈ (ds.foldl Table.declare t).declaredShapes := by
  rw [Table.declaredShapes, Table.shapes_foldl_declare, Table.dataTypes_foldl_declare]
  simp only [List.mem_append, List.mem_filterMap]
  cases d with
  | shape s => exact .inl (.inr ⟨_, h, rfl⟩)
  | dataType s => exact .inr (.inr ⟨_, h, rfl⟩)

/-- A table with a declaration that has no name is refused. -/
theorem Table.refused_of_nameless {base text : String} {texts : List String} (htext : text ∈ texts)
    (hname : ∀ d, Declaration.parse text = .ok d → d.body.name = "") :
    ∃ e, Table.ofDeclarations base texts = .error e := by
  cases hread : Table.ofDeclarations base texts with
  | error e => exact ⟨e, rfl⟩
  | ok t =>
      obtain ⟨ds, hds, rfl, hvalid⟩ := Table.ofDeclarations_eq_ok_iff.mp hread
      obtain ⟨d, hd, hparse⟩ := exists_of_mem_forall₂ hds.flip htext
      have hid := (Table.validate_eq_ok_iff.mp hvalid).names _
        (Table.body_mem_declaredShapes_foldl hd _)
      rw [hname d hparse] at hid
      cases hid

/-- **Blanks before the colon are ignored**, whatever stands around the declaration: the same table
is read, or the table is refused for the same reason.  The word that marks a data type is the only
exception.  With blanks it is not the name of a shape any more: what is read, if the fields can be
read, is a data type without a name, and the table is refused. -/
theorem Table.blanks_before_colon_ignored {name w : String} (hname : isIdentifier name.toList)
    (hw : ∀ c ∈ w.toList, isBlank c) (base list : String) (before after : List String) :
    (name ≠ dataKeyword ∨ w = "" →
      Table.ofDeclarations base (before ++ (name ++ w ++ ":" ++ list) :: after) =
        Table.ofDeclarations base (before ++ (name ++ ":" ++ list) :: after)) ∧
    (name = dataKeyword → w ≠ "" →
      (∀ d, Declaration.parse (name ++ w ++ ":" ++ list) = .ok d ↔
        ∃ fields, (splitFields list.toList).mapM (Field.ofChars "") = .ok fields ∧
          d = .dataType ⟨"", fields⟩) ∧
      ∃ e, Table.ofDeclarations base (before ++ (name ++ w ++ ":" ++ list) :: after) =
        .error e) := by
  constructor
  · intro h
    have hkeyword : name = dataKeyword → w = "" := fun he => h.resolve_left fun hne => hne he
    exact Table.ofDeclarations_of_parse_eq
      (Declaration.parse_blanks_before_colon hname hw hkeyword list) base before after
  · rintro rfl hne
    refine ⟨fun d => Declaration.parse_keyword_eq_ok_iff hw hne,
      Table.refused_of_nameless (List.mem_append_right _ List.mem_cons_self) fun d hd => ?_⟩
    obtain ⟨fields, -, rfl⟩ := (Declaration.parse_keyword_eq_ok_iff hw hne).mp hd
    rfl

/-- A name that starts with the word for data types is a name like any other. -/
theorem blanks_before_colon_ignored_structure :
    Table.ofDeclarations "Expr" ["This :", "structure" ++ "\u2003\t" ++ ":" ++ "Expr e"] =
        Table.ofDeclarations "Expr" ["This :", "structure:Expr e"] ∧
      (∃ t, Table.ofDeclarations "Expr" ["This :", "structure:Expr e"] = .ok t) ∧
      (∃ d, Declaration.parse ("struct" ++ " " ++ ":" ++ "Expr e") = .ok d) ∧
      ∃ e, Table.ofDeclarations "Expr" ["This :", "struct" ++ " " ++ ":" ++ "Expr e"] =
        .error e := by
  have hblanks : ∀ c ∈ "\u2003\t".toList, isBlank c := List.all_eq_true.mp (by decide)
  have hspace : ∀ c ∈ " ".toList, isBlank c := List.all_eq_true.mp (by decide)
  have hstructure : isIdentifier "structure".toList := by decide
  have hstruct : isIdentifier "struct".toList := by decide
  have hread :=
    Table.blanks_before_colon_ignored hstructure hblanks "Expr" "Expr e" ["This :"] []
  have hrefused := Table.blanks_before_colon_ignored hstruct hspace "Expr" "Expr e" ["This :"] []
  obtain ⟨hnameless, hrefused⟩ := hrefused.2 rfl (by decide)
  exact ⟨hread.1 (.inl (by decide)), ⟨_, rfl⟩, ⟨_, (hnameless _).mpr ⟨_, rfl, rfl⟩⟩, hrefused⟩

/-- A shape may have the word for data types as its name, but not with a blank before the colon. -/
theorem struct_with_blank_refused :
    isIdentifier "struct".toList ∧
      (∃ t, Table.ofDeclarations "Expr" ["struct" ++ ":" ++ " Token name"] = .ok t) ∧
      Table.ofDeclarations "Expr" ["struct" ++ " " ++ ":" ++ " Token name"] =
        .error (.noShapes "Expr") :=
  ⟨by decide, ⟨_, rfl⟩, rfl⟩

end AstForge
