import AstForge.Proofs.Document.Form
import AstForge.Proofs.Table.Parsed
import AstForge.Proofs.TypeExpr.Applied
import AstForge.Proofs.TypeExpr.Reference

/-!
# Documents — the types of fields as a tagged union writes them

A field type is checked once, alone.  The document then writes it in three forms: stored in a
structure, as a parameter of a constructor, and after `&` as the result of an accessor; and each
time it writes something directly after it.

* `Table.writtenTypes_accepted_iff`: the stored form and the parameter are types again, and the
  reference is one unless the type starts with a byte order mark or joins bounds by `+`
  (`sumTable_reference_refused`).
* `TaggedUnion.exists_holdsContinued`: what the document writes after a type is one of four texts.
* `TaggedUnion.tokens_continued_iff`: each of these texts is read after the type, unless the type
  ends in a line comment, which takes the text in (`commented_type_swallows`).
-/

namespace AstForge

open Text TypeExpr

/-! ### Forms of a type -/

/-- The fields of all declarations. -/
def ResolvedTable.fields (t : ResolvedTable) : List ResolvedField :=
  t.shapes.flatMap (·.fields) ++ t.dataTypes.flatMap (·.fields)

/-- Every field type of a table that can be written is a type. -/
theorem TaggedUnion.Writable.accepts {t : ResolvedTable} (h : Writable t) {f : ResolvedField}
    (hf : f ∈ t.fields) : accepts f.type = true := by
  rcases List.mem_append.mp hf with hf | hf
  · obtain ⟨s, hs, hf⟩ := List.mem_flatMap.mp hf
    exact (h.shapes s hs).types f hf
  · obtain ⟨d, hd, hf⟩ := List.mem_flatMap.mp hf
    exact (h.dataTypes d hd).types f hf

/-- The name of a type that can be written is a name of the type grammar. -/
theorem TaggedUnion.TypeNameWritable.isName {name : String} (h : TypeNameWritable name) :
    isName name = true := by
  have hreserved : reservedWords.all fun word =>
      keywords.contains word || TaggedUnion.unwritable.contains word := by decide
  rw [TypeExpr.isName, Bool.not_eq_true', List.contains_eq_mem, decide_eq_false_iff_not]
  intro hmem
  have hword := List.all_eq_true.mp hreserved name hmem
  rw [Bool.or_eq_true, List.contains_iff_mem, List.contains_iff_mem] at hword
  exact hword.elim h.keyword h.unwritable

/-- **The stored form** of a field type is a type: the type itself, or the base type in a box. -/
theorem TaggedUnion.accepts_storedType {t : Table} (hvalid : t.Valid)
    (hwritable : Writable t.resolve) {f : ResolvedField} (hf : f ∈ t.resolve.fields) :
    accepts (storedType t.base f) = true := by
  rw [storedType]
  split
  · have hopening : "Box<" = "Box" ++ "<" := by decide
    rw [hopening]
    exact accepts_applied (by decide) (by decide) hvalid.base hwritable.base.isName
  · exact hwritable.accepts hf

/-- **The forms of a type**: in a table that was read and that passes the check, a field type can
be read as it is stored and as it is passed.  The reference to it can be read exactly when it starts
with no byte order mark and joins no bounds. -/
theorem Table.writtenTypes_accepted_iff {base : String} {texts : List String} {t : Table}
    (ht : Table.ofDeclarations base texts = .ok t) (hcheck : TaggedUnion.check t.resolve = .ok ())
    {f : ResolvedField} (hf : f ∈ t.resolve.fields) :
    accepts (TaggedUnion.storedType t.base f) ∧ accepts f.type ∧
      (accepts ("&" ++ f.type) ↔
        f.type.toList.head? ≠ some '\ufeff' ∧ joinsBounds f.type = false) := by
  have hvalid := Table.validate_eq_ok_iff.mp (Table.wellFormed_of_ofDeclarations ht).valid
  have hwritable := TaggedUnion.check_eq_ok_iff.mp hcheck
  have haccepts := hwritable.accepts hf
  exact ⟨TaggedUnion.accepts_storedType hvalid hwritable hf, haccepts,
    accepts_reference_iff haccepts⟩

/-- A table with a field of the base type, and types that hold a `+` inside. -/
def nestedSumTable : Table :=
  (Table.empty "Expr").addShape
    ⟨"Call", [⟨"Expr", "callee"⟩, ⟨"[Box<dyn A + B>; 2]", "rules"⟩, ⟨"(?A) + B", "rest"⟩]⟩

theorem writtenTypes_accepted_nestedSumTable :
    Table.ofDeclarations "Expr" ["Call: Expr callee, [Box<dyn A + B>; 2] rules, (?A) + B rest"] =
        .ok nestedSumTable ∧
      TaggedUnion.check nestedSumTable.resolve = .ok () ∧
      ∀ f ∈ nestedSumTable.resolve.fields,
        accepts (TaggedUnion.storedType "Expr" f) ∧ accepts f.type ∧ accepts ("&" ++ f.type) := by
  have ht : Table.ofDeclarations "Expr"
      ["Call: Expr callee, [Box<dyn A + B>; 2] rules, (?A) + B rest"] = .ok nestedSumTable := rfl
  have hcheck : TaggedUnion.check nestedSumTable.resolve = .ok () := by decide +kernel
  refine ⟨ht, hcheck, fun f hf => ?_⟩
  obtain ⟨hstored, haccepts, hreference⟩ := Table.writtenTypes_accepted_iff ht hcheck hf
  have hplain : nestedSumTable.resolve.fields.all fun f =>
      f.type.toList.head? != some '\ufeff' && !joinsBounds f.type := by decide +kernel
  have hf := List.all_eq_true.mp hplain f hf
  rw [Bool.and_eq_true, bne_iff_ne, Bool.not_eq_true'] at hf
  exact ⟨hstored, haccepts, hreference.mpr hf⟩

/-- A table with a type that joins bounds. -/
def sumTable : Table :=
  (Table.empty "Expr").addShape ⟨"Bad", [⟨"dyn A + B", "name"⟩]⟩

/-- **Some accessors do not return a type.**  A reference takes no `+`. -/
theorem sumTable_reference_refused :
    Table.ofDeclarations "Expr" ["Bad : dyn A + B name"] = .ok sumTable ∧
      (∃ ls, Document.lines (Config.ofTarget .rust) sumTable.resolve = .ok ls ∧
        ⟨1, "pub fn name(&self) -> &dyn A + B \x7b"⟩ ∈ ls) ∧
      accepts "dyn A + B" = true ∧ accepts "&dyn A + B" = false := by
  refine ⟨rfl, ⟨_, Document.lines_eq_ok_iff.mpr ⟨by decide +kernel, rfl⟩, by decide +kernel⟩, ?_⟩
  decide +kernel

/-! ### What follows a type -/

namespace TaggedUnion

/-- The texts that the document writes directly after a type: after a field of a structure, between
two parameters of a constructor, after the last of them, and after the result of an accessor. -/
def continuations : List String := [",\n", ", ", ") -> Self \x7b", " \x7b"]

/-- A text holds a type directly before one of the continuations. -/
def HoldsContinued (type text : String) : Prop :=
  ∃ before after, ∃ k ∈ continuations, text = before ++ type ++ k ++ after

/-- An element of a list is followed by the separator, or by what closes the list. -/
theorem exists_intercalate_eq (separator opening closing : String) {texts : List String}
    {text : String} (h : text ∈ texts) : ∃ before after, ∃ k ∈ [separator, closing],
      opening ++ separator.intercalate texts ++ closing = before ++ text ++ k ++ after := by
  induction texts generalizing opening with
  | nil => cases h
  | cons first rest ih =>
      cases rest with
      | nil =>
          obtain rfl := List.mem_singleton.mp h
          exact ⟨opening, "", closing, by simp, by simp⟩
      | cons second rest =>
          rw [String.intercalate_cons_cons]
          rcases List.mem_cons.mp h with rfl | h
          · exact ⟨opening, separator.intercalate (second :: rest) ++ closing, separator, by simp,
              by simp [String.append_assoc]⟩
          · obtain ⟨before, after, k, hk, htext⟩ := ih (opening ++ (first ++ separator)) h
            rw [← String.append_assoc]
            exact ⟨before, after, k, hk, htext⟩

/-- **Where types stand**: the structure, the constructor and the accessor of a field hold its type
directly before one of the continuations. -/
theorem exists_holdsContinued (cfg : Config) (t : ResolvedTable) (doc doc' name indent : String)
    {fields : List NamedField} {f : NamedField} (hf : f ∈ fields) :
    (∃ l ∈ structLines cfg t doc name fields,
        HoldsContinued (storedType t.base f.field) (l.render indent)) ∧
      (∃ l ∈ constructor doc' fields, HoldsContinued f.field.type (l.render indent)) ∧
      ∃ l ∈ accessors fields, HoldsContinued f.field.type (l.render indent) := by
  refine ⟨⟨⟨1, f.name ++ ": " ++ storedType t.base f.field ++ ","⟩, ?_, ?_⟩,
    ⟨⟨1, "pub fn new(" ++ ", ".intercalate (fields.map fun f => f.name ++ ": " ++ f.field.type) ++
      ") -> Self \x7b"⟩, ?_, ?_⟩,
    ⟨⟨1, "pub fn " ++ f.name ++ "(&self) -> &" ++ f.field.type ++ " \x7b"⟩, ?_, ?_⟩⟩
  · simp only [structLines, List.mem_append, List.mem_cons, List.mem_map]
    exact .inl (.inr (.inr ⟨f, hf, rfl⟩))
  · refine ⟨String.join (List.replicate 1 indent) ++ f.name ++ ": ", "", ",\n", by decide, ?_⟩
    have hcomma : ",\n" = "," ++ "\n" := by decide
    simp [Line.render, hcomma, String.append_assoc]
  · simp [constructor]
  · have hmem : f.name ++ ": " ++ f.field.type ∈
        fields.map fun f => f.name ++ ": " ++ f.field.type := List.mem_map_of_mem hf
    obtain ⟨before, after, k, hk, htext⟩ :=
      exists_intercalate_eq ", " "pub fn new(" ") -> Self \x7b" hmem
    have hk : k ∈ continuations :=
      List.mem_of_mem_drop (i := 1) (List.mem_of_mem_take (i := 2) hk)
    refine ⟨String.join (List.replicate 1 indent) ++ before ++ f.name ++ ": ", after ++ "\n", k, hk,
      ?_⟩
    rw [Line.render, htext]
    simp only [String.append_assoc]
  · exact List.mem_flatMap.mpr ⟨f, hf, by simp⟩
  · exact ⟨String.join (List.replicate 1 indent) ++ "pub fn " ++ f.name ++ "(&self) -> &", "\n",
      " \x7b", by decide, by simp [Line.render, String.append_assoc]⟩

/-- Each continuation has tokens of its own, and none of them joins the last token of a type. -/
theorem continues_of_mem {k : String} (hk : k ∈ continuations) :
    ∃ ks, ks ≠ [] ∧ Continues k ks := by
  simp only [continuations, List.mem_cons, List.not_mem_nil, or_false] at hk
  rcases hk with rfl | rfl | rfl | rfl
  · exact ⟨[.mark ',' false], by simp, ⟨',', "\n".toList, by decide, by decide⟩, by decide,
      by simp, by decide, by decide⟩
  · exact ⟨[.mark ',' false], by simp, ⟨',', " ".toList, by decide, by decide⟩, by decide,
      by simp, by decide, by decide⟩
  · exact ⟨[.closing .round, .mark '-' true, .mark '>' false, .word "Self", .opening .curly],
      by simp, ⟨')', " -> Self \x7b".toList, by decide, by decide⟩, by decide, by simp,
      by decide, by decide⟩
  · exact ⟨[.opening .curly], by simp, ⟨' ', "\x7b".toList, by decide, by decide⟩, by decide,
      by simp, by decide, by decide⟩

/-- The check of a field type passes exactly the types. -/
theorem checkFieldType_eq_ok_iff {owner : String} {f : ResolvedField} :
    checkFieldType owner f = .ok () ↔ accepts f.type = true := by
  rw [checkFieldType]
  cases accepts f.type <;> simp

/-- **What follows a type**: the tokens of an accepted type and a text after it are the tokens of
the type, up to whether its last mark is joint, and then those of the text, exactly when the type
does not end in a line comment.  A type that does takes the text in.  The texts are those that stand
directly after the type in the structure, the constructor and the accessor of its field. -/
theorem tokens_continued_iff {owner : String} {f : ResolvedField}
    (hf : checkFieldType owner f = .ok ()) :
    (∀ k ∈ continuations,
      ((∃ ts us ks, tokens? f.type = some ts ∧ tokens? k = some ks ∧ Respaced ts us ∧
          tokens? (f.type ++ k) = some (us ++ ks)) ↔ endsInLineComment f.type = false) ∧
        (endsInLineComment f.type = true → tokens? (f.type ++ k) = tokens? f.type)) ∧
    ∀ (cfg : Config) (t : ResolvedTable) (doc doc' owner indent name : String)
      (fields : List NamedField), ⟨name, f⟩ ∈ fields →
      (∃ l ∈ structLines cfg t doc owner fields,
          HoldsContinued (storedType t.base f) (l.render indent)) ∧
        (∃ l ∈ constructor doc' fields, HoldsContinued f.type (l.render indent)) ∧
        ∃ l ∈ accessors fields, HoldsContinued f.type (l.render indent) := by
  refine ⟨fun k hk => ?_, fun cfg t doc doc' owner indent name fields hmem =>
    exists_holdsContinued cfg t doc doc' owner indent (f := ⟨name, f⟩) hmem⟩
  obtain ⟨ts, hts, hbalanced, -⟩ := accepts_eq_true_iff.mp (checkFieldType_eq_ok_iff.mp hf)
  obtain ⟨ks, hks, hcontinues⟩ := continues_of_mem hk
  have hswallowed : endsInLineComment f.type = true → tokens? (f.type ++ k) = tokens? f.type :=
    fun hopen => (hcontinues.tokens?_append_of_endsInLineComment hts hopen).trans hts.symm
  refine ⟨⟨?_, ?_⟩, hswallowed⟩
  · rintro ⟨ts', us, ks', hts', hks', hspaced, hread⟩
    rw [Bool.eq_false_iff]
    intro hopen
    rw [hswallowed hopen, hts'] at hread
    have hlength := congrArg List.length (Option.some.inj hread)
    rw [List.length_append, hspaced.length_eq, Nat.left_eq_add, List.length_eq_zero_iff] at hlength
    rw [hcontinues.tokens] at hks'
    exact hks ((Option.some.inj hks').trans hlength)
  · intro hclosed
    obtain ⟨us, hread, hspaced⟩ := hcontinues.tokens?_append hts hbalanced hclosed
    exact ⟨ts, us, ks, hts, hcontinues.tokens, hspaced, hread⟩

/-- A field whose type holds comments of both kinds, and marks at its end. -/
def commentedField : ResolvedField :=
  ⟨"Cell<'a, [u8; \x7b // two\n 2 \x7d]> /* a // b */", "bytes", false⟩

theorem tokens_continued_commentedField :
    checkFieldType "Node" commentedField = .ok () ∧
      ") -> Self \x7b" ∈ continuations ∧ endsInLineComment commentedField.type = false ∧
      ∃ ts us ks, tokens? commentedField.type = some ts ∧ tokens? ") -> Self \x7b" = some ks ∧
        Respaced ts us ∧ tokens? (commentedField.type ++ ") -> Self \x7b") = some (us ++ ks) := by
  have hf : checkFieldType "Node" commentedField = .ok () := by decide +kernel
  have hk : ") -> Self \x7b" ∈ continuations := by decide
  have hclosed : endsInLineComment commentedField.type = false := by decide +kernel
  exact ⟨hf, hk, hclosed, ((tokens_continued_iff hf).1 _ hk).1.mpr hclosed⟩

/-- **Some types swallow what follows them.**  No token is left of the comma after the field, of the
bracket after the parameters and of the block of the accessor. -/
theorem commented_type_swallows :
    checkFieldType "Bad" ⟨"A //x", "name", false⟩ = .ok () ∧
      tokens? "A //x" = some [.word "A"] ∧
      ∀ k ∈ continuations, tokens? ("A //x" ++ k) = some [.word "A"] ∧ tokens? k ≠ some [] := by
  decide +kernel

end TaggedUnion

end AstForge
