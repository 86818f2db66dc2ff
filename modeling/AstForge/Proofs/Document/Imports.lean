import Mathlib.Logic.Relation
import AstForge.Proofs.Document.Plain
import AstForge.Proofs.Text.Bytes
import AstForge.Text.Property.Alphanumeric

/-!
# Documents — the imports of a class hierarchy

A document imports what is chosen and the collection types that the types of its fields name.  A
type is cut into names at every character that belongs to none, and a point belongs to a name.

* `mem_imports_iff`: which names are imported.
* `pairwise_imports`: they stand in ascending order, each once, so the list is known from its
  members (`imports_eq_of_mem_iff`).
* `imports_canonical`: with these, the list depends neither on the order of anything nor on which
  declarations are shapes, and it is the list of the import lines.
* `mentioned_types_imported`: a collection type that a field mentions is imported, unless a point
  follows each time.
-/

namespace AstForge

open Text

/-! ### The types of fields -/

namespace ResolvedTable

/-- Some field of a shape or of a data type has the type. -/
def HasFieldType (t : ResolvedTable) (type : String) : Prop :=
  (∃ s ∈ t.shapes, ∃ f ∈ s.fields, f.type = type) ∨
    ∃ d ∈ t.dataTypes, ∃ f ∈ d.fields, f.type = type

/-- The field types of a table are those of its shapes and of its data types. -/
theorem mem_fieldTypes_iff {t : ResolvedTable} {type : String} :
    type ∈ t.fieldTypes ↔ t.HasFieldType type := by
  have hfields : ∀ {α : Type} {xs : List α} {fields : α → List ResolvedField},
      type ∈ (xs.flatMap fields).map (·.type) ↔ ∃ x ∈ xs, ∃ f ∈ fields x, f.type = type := by
    intro α xs fields
    simp only [List.mem_map, List.mem_flatMap]
    exact ⟨fun ⟨f, ⟨x, hx, hf⟩, h⟩ => ⟨x, hx, f, hf, h⟩,
      fun ⟨x, hx, f, hf, h⟩ => ⟨f, ⟨x, hx, hf⟩, h⟩⟩
  rw [fieldTypes, List.map_append, List.mem_append, hfields, hfields, HasFieldType]

/-- One change to the order of the declarations or of their fields, or to the kind of one. -/
inductive Rearranges : ResolvedTable → ResolvedTable → Prop
  | shapes {t : ResolvedTable} {ss : List ResolvedShape} (h : t.shapes.Perm ss) :
      Rearranges t { t with shapes := ss }
  | dataTypes {t : ResolvedTable} {ds : List ResolvedData} (h : t.dataTypes.Perm ds) :
      Rearranges t { t with dataTypes := ds }
  | shapeFields {t : ResolvedTable} {before after : List ResolvedShape} {s : ResolvedShape}
      {fs : List ResolvedField} (hs : t.shapes = before ++ s :: after) (h : s.fields.Perm fs) :
      Rearranges t { t with shapes := before ++ { s with fields := fs } :: after }
  | dataFields {t : ResolvedTable} {before after : List ResolvedData} {d : ResolvedData}
      {fs : List ResolvedField} (hd : t.dataTypes = before ++ d :: after) (h : d.fields.Perm fs) :
      Rearranges t { t with dataTypes := before ++ { d with fields := fs } :: after }
  | toDataType {t : ResolvedTable} {before after : List ResolvedShape} {s : ResolvedShape}
      (hs : t.shapes = before ++ s :: after) :
      Rearranges t
        { t with shapes := before ++ after, dataTypes := s.toResolvedData :: t.dataTypes }

/-- No change of this kind adds or removes the type of a field. -/
theorem Rearranges.hasFieldType_iff {t t' : ResolvedTable} (h : t.Rearranges t') {type : String} :
    t'.HasFieldType type ↔ t.HasFieldType type := by
  -- A list with one element put in the midst: its types are those of the element and of the rest.
  have hmid : ∀ {α : Type} {before after : List α} {x : α} {p : α → Prop},
      (∃ y ∈ before ++ x :: after, p y) ↔ p x ∨ ∃ y ∈ before ++ after, p y := by
    intro α before after x p
    simp only [List.mem_append, List.mem_cons, or_and_right, exists_or, exists_eq_left]
    exact or_left_comm
  cases h with
  | shapes h => simp only [HasFieldType, h.mem_iff]
  | dataTypes h => simp only [HasFieldType, h.mem_iff]
  | shapeFields hs h => simp only [HasFieldType, hs, hmid, h.mem_iff]
  | dataFields hd h => simp only [HasFieldType, hd, hmid, h.mem_iff]
  | toDataType hs =>
      simp only [HasFieldType, hs, hmid, List.exists_mem_cons_iff]
      rw [or_left_comm, or_assoc]

/-- The table comes from another one by such changes, one after the other. -/
def Rearranged : ResolvedTable → ResolvedTable → Prop :=
  Relation.ReflTransGen Rearranges

/-- Rearranging declarations keeps the field types. -/
theorem Rearranged.hasFieldType_iff {t t' : ResolvedTable} (h : t.Rearranged t') {type : String} :
    t'.HasFieldType type ↔ t.HasFieldType type := by
  induction h with
  | refl => rfl
  | tail _ hstep ih => exact hstep.hasFieldType_iff.trans ih

end ResolvedTable

namespace ClassHierarchy

variable {cfg : Config} {t : ResolvedTable}

/-! ### Which names are imported -/

/-- The names in a type are its longest stretches of word characters and points. -/
theorem mem_typeNames_iff {name type : String} :
    name ∈ typeNames type ↔ MaximalRun isNameChar name.toList type.toList := by
  rw [← mem_splitOnP_iff, typeNames, List.mem_map]
  constructor
  · rintro ⟨run, hrun, rfl⟩
    rwa [String.toList_ofList]
  · exact fun h => ⟨_, h, String.ofList_toList⟩

/-- Some type has the name as a longest stretch of the characters of names. -/
def Names (t : ResolvedTable) (name : String) : Prop :=
  ∃ type, t.HasFieldType type ∧ MaximalRun isNameChar name.toList type.toList

/-- An import is needed for each collection type that some field type names. -/
theorem mem_neededImports_iff {name : String} :
    name ∈ neededImports t ↔ ∃ util ∈ utilTypes, name = "java.util." ++ util ∧ Names t util := by
  simp only [neededImports, List.mem_map, List.mem_filter, List.mem_flatMap, mem_typeNames_iff,
    ResolvedTable.mem_fieldTypes_iff, List.contains_iff_mem, Names]
  constructor
  · rintro ⟨util, ⟨hnames, hutil⟩, rfl⟩
    exact ⟨util, hutil, rfl, hnames⟩
  · rintro ⟨util, hutil, rfl, hnames⟩
    exact ⟨util, ⟨hnames, hutil⟩, rfl⟩

/-- **Which names are imported**: those that are chosen, and those of the collection types that a
type of a field names. -/
theorem mem_imports_iff {name : String} :
    name ∈ imports cfg t ↔
      name ∈ cfg.imports ∨ ∃ util ∈ utilTypes, name = "java.util." ++ util ∧ Names t util := by
  rw [imports, mem_foldr_insertImport, List.mem_append, mem_neededImports_iff, or_comm]

/-! ### Their order -/

/-- An import is inserted in order. -/
theorem pairwise_insertImport {names : List String} (h : names.Pairwise (· < ·))
    (name : String) : (insertImport name names).Pairwise (· < ·) := by
  induction names with
  | nil => exact List.pairwise_singleton _ _
  | cons first names ih =>
      obtain ⟨hfirst, hnames⟩ := List.pairwise_cons.mp h
      rw [insertImport]
      split
      · next hlt =>
          refine List.pairwise_cons.mpr ⟨List.forall_mem_cons.mpr ⟨hlt, fun other hother => ?_⟩, h⟩
          exact lt_trans hlt (hfirst other hother)
      · next hnlt =>
          split
          · exact h
          · next hne =>
              have hgt : first < name := lt_of_le_of_ne (not_lt.mp hnlt) (Ne.symm hne)
              refine List.pairwise_cons.mpr ⟨fun other hother => ?_, ih hnames⟩
              rcases mem_insertImport.mp hother with rfl | hother
              · exact hgt
              · exact hfirst other hother

/-- The imports are in strict order. -/
theorem pairwise_imports (cfg : Config) (t : ResolvedTable) :
    (imports cfg t).Pairwise (· < ·) := by
  rw [imports]
  induction neededImports t ++ cfg.imports with
  | nil => exact .nil
  | cons name names ih => exact pairwise_insertImport ih name

/-- The members of the list determine it. -/
theorem imports_eq_of_mem_iff {cfg' : Config} {t' : ResolvedTable}
    (h : ∀ name, name ∈ imports cfg' t' ↔ name ∈ imports cfg t) :
    imports cfg' t' = imports cfg t := by
  have hnodup : ∀ cfg t, (imports cfg t).Nodup := fun cfg t =>
    (pairwise_imports cfg t).imp ne_of_lt
  refine List.Perm.eq_of_pairwise (fun a b _ _ hab hba => absurd hab (lt_asymm hba))
    (pairwise_imports cfg' t') (pairwise_imports cfg t) ?_
  exact (List.perm_ext_iff_of_nodup (hnodup cfg' t') (hnodup cfg t)).mpr h

/-- The imports depend only on the field types and on the set of chosen imports. -/
theorem imports_rearranged {cfg' : Config} {t' : ResolvedTable} (ht : t.Rearranged t')
    (hcfg : ∀ name, name ∈ cfg'.imports ↔ name ∈ cfg.imports) :
    imports cfg' t' = imports cfg t := by
  refine imports_eq_of_mem_iff fun name => ?_
  simp only [mem_imports_iff, hcfg, Names, ht.hasFieldType_iff]

/-! ### Import lines -/

/-- The name that a row imports. -/
def importedName? (row : List Char) : Option String :=
  ("import ".toList.isPrefixOf? row).bind fun rest =>
    if rest.getLast? = some ';' then some (String.ofList rest.dropLast) else none

/-- The name is read back from a line that imports it. -/
theorem importedName?_import (name : String) :
    importedName? ("import " ++ name ++ ";").toList = some name := by
  have htext : ("import " ++ name ++ ";").toList = "import ".toList ++ (name.toList ++ [';']) := by
    simp
  rw [importedName?, htext, List.isPrefixOf?_eq_some_iff_append_eq.mpr rfl, Option.bind_some]
  simp

/-- A line that does not start with `import` imports nothing. -/
theorem importedName?_eq_none {row : List Char} (h : "import ".toList.isPrefixOf? row = none) :
    importedName? row = none := by
  rw [importedName?, h, Option.bind_none]

/-- A comment imports nothing, whatever it says. -/
theorem isPrefixOf?_comment {text : String} {l : Line} (h : l ∈ commentLines text) :
    "import ".toList.isPrefixOf? l.text.toList = none := by
  obtain ⟨rest, -, htext⟩ := exists_of_mem_commentLines h
  simp [htext, List.isPrefixOf?]

/-- Blank lines between sections hold nothing that is read. -/
theorem filterMap_joinSections {α : Type} {f : Line → Option α} (hblank : f Line.blank = none)
    (ss : List (List Line)) : (joinSections ss).filterMap f = ss.flatMap (·.filterMap f) := by
  have hjoined : ([Line.blank].intercalate ss).filterMap f = ss.flatMap (·.filterMap f) := by
    induction ss with
    | nil => rfl
    | cons s ss ih =>
        cases ss with
        | nil => simp
        | cons s' ss =>
            rw [List.intercalate_cons_cons, List.filterMap_append, List.filterMap_append, ih]
            simp [hblank]
  rw [joinSections]
  split
  · next hempty => rw [← hjoined, List.isEmpty_iff.mp hempty]
  · rw [List.filterMap_append, hjoined]
    simp [hblank]

/-- **The import lines of the preamble** are those of the imports, in their order. -/
theorem filterMap_preamble (cfg : Config) (t : ResolvedTable) :
    (preamble cfg t).filterMap (fun l => importedName? l.text.toList) = imports cfg t := by
  have hcomment : ∀ ls ∈ (cfg.header.map commentLines).toList,
      ls.filterMap (fun l => importedName? l.text.toList) = [] := by
    intro ls hls
    obtain ⟨text, -, rfl⟩ := Option.map_eq_some_iff.mp (Option.mem_toList.mp hls)
    exact List.filterMap_eq_nil_iff.mpr fun l hl =>
      importedName?_eq_none (isPrefixOf?_comment hl)
  have hpackage : ∀ ls ∈ (cfg.package.map fun name =>
      [(⟨0, "package " ++ name ++ ";"⟩ : Line)]).toList,
      ls.filterMap (fun l => importedName? l.text.toList) = [] := by
    intro ls hls
    obtain ⟨name, -, rfl⟩ := Option.map_eq_some_iff.mp (Option.mem_toList.mp hls)
    have hnone : importedName? ("package " ++ name ++ ";").toList = none :=
      importedName?_eq_none (by simp [List.isPrefixOf?])
    simp only [List.filterMap_cons, hnone, List.filterMap_nil]
  have hnames : ∀ names : List String,
      (names.map fun name => (⟨0, "import " ++ name ++ ";"⟩ : Line)).filterMap
        (fun l => importedName? l.text.toList) = names := by
    intro names
    induction names with
    | nil => rfl
    | cons name names ih =>
        simp only [List.map_cons, List.filterMap_cons, importedName?_import, ih]
  rw [preamble, filterMap_joinSections rfl, List.flatMap_append, List.flatMap_append,
    List.flatMap_eq_nil_iff.mpr hcomment, List.flatMap_eq_nil_iff.mpr hpackage]
  split
  · next hempty =>
      rw [List.isEmpty_iff.mp hempty]
      rfl
  · rw [List.flatMap_singleton, hnames]
    rfl

/-! ### The text of the preamble -/

theorem depth_preamble : ∀ l ∈ preamble cfg t, l.depth = 0 := by
  intro l hl
  rcases mem_preamble hl with rfl | ⟨text, -, hl⟩ | ⟨name, -, rfl⟩ | ⟨name, -, rfl⟩
  · rfl
  · obtain ⟨line, -, rfl⟩ := List.mem_map.mp hl
    rfl
  · rfl
  · rfl

/-- The carriage return that may end a line of the header is no part of an import. -/
theorem importedName?_dropReturn {l : Line} (h : l ∈ preamble cfg t) :
    importedName? (dropReturn l.text.toList) = importedName? l.text.toList := by
  rcases mem_preamble h with rfl | ⟨text, -, hl⟩ | ⟨name, -, rfl⟩ | ⟨name, -, rfl⟩
  · rfl
  · have hnone := isPrefixOf?_comment hl
    rw [importedName?_eq_none hnone, importedName?_eq_none (isPrefixOf?_dropReturn_eq_none hnone)]
  · rw [dropReturn_toList_append (c := ';') _ rfl (by decide)]
  · rw [dropReturn_toList_append (c := ';') _ rfl (by decide)]

/-- **The import lines of the preamble's text**, if the package and the chosen imports stand on one
line each. -/
theorem filterMap_lines_preamble (hpackage : ∀ name ∈ cfg.package, '\n' ∉ name.toList)
    (himports : ∀ name ∈ cfg.imports, '\n' ∉ name.toList) :
    (lines (renderLines cfg.indent (preamble cfg t)).toList).filterMap importedName? =
      imports cfg t := by
  have hrow : ∀ l ∈ preamble cfg t, l.row cfg.indent = l.text.toList := by
    intro l hl
    rw [Line.row, depth_preamble l hl]
    rfl
  have hnl : ∀ row ∈ (preamble cfg t).map (Line.row cfg.indent), '\n' ∉ row := by
    refine List.forall_mem_map.mpr fun l hl => ?_
    rw [hrow l hl]
    exact (plain_preamble hpackage himports l hl).1
  rw [toList_renderLines, lines_terminated hnl, List.map_map, List.filterMap_map,
    ← filterMap_preamble cfg t]
  refine List.filterMap_congr fun l hl => ?_
  rw [Function.comp_apply, Function.comp_apply, hrow l hl, importedName?_dropReturn hl]

/-- **The list of imports is canonical.**  It stands in ascending order of the bytes; it holds the
chosen imports and those of the collection types that a type of a field names, and nothing else; it
is the list of the preamble's import lines; and it stays the same when shapes, data types or fields
change places, when shapes become data types, and when the chosen imports change places or are
repeated. -/
theorem imports_canonical (cfg : Config) (t : ResolvedTable) :
    ((imports cfg t).Pairwise fun name name' => bytes name < bytes name') ∧
    (∀ name, name ∈ imports cfg t ↔
      name ∈ cfg.imports ∨ ∃ util ∈ utilTypes, name = "java.util." ++ util ∧
        ∃ type, t.HasFieldType type ∧ MaximalRun isNameChar util.toList type.toList) ∧
    (preamble cfg t).filterMap (fun l => importedName? l.text.toList) = imports cfg t ∧
    ((∀ name ∈ cfg.package, '\n' ∉ name.toList) → (∀ name ∈ cfg.imports, '\n' ∉ name.toList) →
      (lines (renderLines cfg.indent (preamble cfg t)).toList).filterMap importedName? =
        imports cfg t) ∧
    ∀ cfg' t', t.Rearranged t' → (∀ name, name ∈ cfg'.imports ↔ name ∈ cfg.imports) →
      imports cfg' t' = imports cfg t :=
  ⟨(pairwise_imports cfg t).imp bytes_lt_iff.mpr, fun _ => mem_imports_iff,
    filterMap_preamble cfg t, filterMap_lines_preamble, fun _ _ => imports_rearranged⟩

/-- A shape with a nested type and a qualified one. -/
def ledgerShape : ResolvedShape where
  name := "Table"
  fields := [⟨"TreeMap<String, List<Expr>>", "entries", false⟩,
    ⟨"java.util.Set<Expr>", "seen", false⟩]
  visitMethod := "visitTableExpr"

/-- A table whose data type uses a collection type that no shape uses. -/
def ledgerTable : ResolvedTable where
  base := "Expr"
  visitorParameter := "expr"
  shapes := [ledgerShape]
  dataTypes := [⟨"Span", [⟨"Optional<Token>", "start", false⟩]⟩]

/-- A configuration with an import chosen twice and a header that looks like one. -/
def ledgerConfig : Config :=
  { Config.ofTarget .java with
    package := some "ledger"
    imports := ["java.time.Instant", "app.Money", "java.util.List", "java.time.Instant"]
    header := some "import java.util.Map;" }

theorem imports_canonical_ledgerTable :
    imports ledgerConfig ledgerTable =
      ["app.Money", "java.time.Instant", "java.util.List", "java.util.Optional",
        "java.util.TreeMap"] ∧
    (lines (renderLines ledgerConfig.indent (preamble ledgerConfig ledgerTable)).toList).filterMap
      importedName? = imports ledgerConfig ledgerTable ∧
    imports { ledgerConfig with imports := ledgerConfig.imports.reverse ++ ledgerConfig.imports }
      { ledgerTable with
        shapes := []
        dataTypes := ledgerShape.toResolvedData :: ledgerTable.dataTypes } =
      imports ledgerConfig ledgerTable := by
  obtain ⟨-, -, -, hlines, hsame⟩ := imports_canonical ledgerConfig ledgerTable
  refine ⟨by decide +kernel, hlines ?_ ?_, hsame _ _ ?_ fun name => ?_⟩
  · simp [ledgerConfig]
  · simp [ledgerConfig]
  · exact .single (@ResolvedTable.Rearranges.toDataType ledgerTable [] [] ledgerShape rfl)
  · rw [List.mem_append, List.mem_reverse, or_self]

/-! ### Mentioned types -/

/-- Whether `c` may stand in a word. -/
def isWordChar (c : Char) : Bool :=
  isAlphanumeric c || c == '_' || c == '$'

/-- The type holds `name` between `before` and `after`, as a whole word that nothing qualifies. -/
structure Mentions (type name : String) (before after : List Char) : Prop where
  text : type.toList = before ++ name.toList ++ after
  start : ∀ c ∈ before.getLast?, isWordChar c = false ∧ c ≠ '.'
  stop : ∀ c ∈ after.head?, isWordChar c = false

theorem isNameChar_eq_false {c : Char} (h : isWordChar c = false) (hpoint : c ≠ '.') :
    isNameChar c = false := by
  simp only [isWordChar, Bool.or_eq_false_iff] at h
  obtain ⟨⟨hc, hunderscore⟩, -⟩ := h
  have hascii : c.isAlphanum = false := by
    by_contra hne
    have hrest : isIdentifierRest c := by simp [isIdentifierRest, Bool.eq_true_of_not_eq_false hne]
    rw [isAlphanumeric, if_pos (isIdentifierRest_ascii hrest)] at hc
    exact hne hc
  simp [isNameChar, hascii, hunderscore, hpoint]

theorem forall_isNameChar_utilTypes : ∀ name ∈ utilTypes, ∀ c ∈ name.toList, isNameChar c := by
  have hall : utilTypes.all (·.toList.all isNameChar) := by decide
  exact fun name hname => List.all_eq_true.mp (List.all_eq_true.mp hall name hname)

/-- A mention that no point follows is a name that the type is made of. -/
theorem Mentions.maximalRun {type name : String} {before after : List Char}
    (h : Mentions type name before after) (hname : name ∈ utilTypes)
    (hpoint : after.head? ≠ some '.') : MaximalRun isNameChar name.toList type.toList := by
  refine ⟨forall_isNameChar_utilTypes name hname, before, after, h.text, fun c hc => ?_,
    fun c hc => ?_⟩
  · exact isNameChar_eq_false (h.start c hc).1 (h.start c hc).2
  · refine isNameChar_eq_false (h.stop c hc) ?_
    rintro rfl
    exact hpoint hc

/-- A collection type is imported when it is chosen or named. -/
theorem utilType_mem_imports_iff {name : String} (hname : name ∈ utilTypes) :
    "java.util." ++ name ∈ imports cfg t ↔ "java.util." ++ name ∈ cfg.imports ∨ Names t name := by
  rw [mem_imports_iff]
  refine or_congr_right ⟨?_, fun h => ⟨name, hname, rfl, h⟩⟩
  rintro ⟨util, -, heq, h⟩
  rwa [(String.append_right_inj "java.util.").mp heq]

/-- **Which collection types are imported**: beside those that are chosen, those that stand in the
type of some field with a name's character on neither side.  So each one that a field mentions is
imported, unless a point follows it: `Map.Entry` is one name. -/
theorem mentioned_types_imported (cfg : Config) (t : ResolvedTable) {name : String}
    (hname : name ∈ utilTypes) :
    ("java.util." ++ name ∈ imports cfg t ↔
      "java.util." ++ name ∈ cfg.imports ∨
        ∃ type, t.HasFieldType type ∧ MaximalRun isNameChar name.toList type.toList) ∧
    ∀ type before after, t.HasFieldType type → Mentions type name before after →
      after.head? ≠ some '.' → "java.util." ++ name ∈ imports cfg t := by
  refine ⟨utilType_mem_imports_iff hname, fun type before after htype hmention hpoint => ?_⟩
  exact (utilType_mem_imports_iff hname).mpr
    (.inr ⟨type, htype, hmention.maximalRun hname hpoint⟩)

/-- A field whose type has a member type of a collection type, and a collection type within. -/
def entryTable : ResolvedTable where
  base := "Expr"
  visitorParameter := "expr"
  shapes := [⟨⟨"Pair", [⟨"Map.Entry<Token, List<Expr>>", "entry", false⟩]⟩, "visitPairExpr"⟩]
  dataTypes := []

theorem entryTable_hasFieldType : entryTable.HasFieldType "Map.Entry<Token, List<Expr>>" :=
  .inl ⟨_, .head _, _, .head _, rfl⟩

theorem mentioned_types_imported_list :
    "List" ∈ utilTypes ∧ entryTable.HasFieldType "Map.Entry<Token, List<Expr>>" ∧
      Mentions "Map.Entry<Token, List<Expr>>" "List" "Map.Entry<Token, ".toList "<Expr>>".toList ∧
      "java.util.List" ∈ imports (Config.ofTarget .java) entryTable := by
  have hutil : "List" ∈ utilTypes := by decide
  have hmentions : Mentions "Map.Entry<Token, List<Expr>>" "List" "Map.Entry<Token, ".toList
      "<Expr>>".toList :=
    { text := by decide
      start := fun c hc => Option.some.inj hc ▸ by decide
      stop := fun c hc => Option.some.inj hc ▸ by decide }
  refine ⟨hutil, entryTable_hasFieldType, hmentions, ?_⟩
  exact (mentioned_types_imported _ _ hutil).2 _ _ _ entryTable_hasFieldType hmentions (by decide)

/-- **A member type is missed**: the field mentions `Map`, which is not imported. -/
theorem map_entry_not_imported :
    "Map" ∈ utilTypes ∧ entryTable.HasFieldType "Map.Entry<Token, List<Expr>>" ∧
      Mentions "Map.Entry<Token, List<Expr>>" "Map" [] ".Entry<Token, List<Expr>>".toList ∧
      "java.util.Map" ∉ imports (Config.ofTarget .java) entryTable := by
  have hmentions : Mentions "Map.Entry<Token, List<Expr>>" "Map" []
      ".Entry<Token, List<Expr>>".toList :=
    { text := by decide
      start := by simp
      stop := fun c hc => Option.some.inj hc ▸ by decide }
  exact ⟨by decide, entryTable_hasFieldType, hmentions, by decide⟩

end ClassHierarchy

end AstForge
