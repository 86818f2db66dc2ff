import Mathlib.Data.List.Nodup
import AstForge.Proofs.Document.Blocks
import AstForge.Proofs.Table.RoundTrip

/-!
# Documents — the names that a scope declares

A scope is a place where names must differ: the document for its types, the enumeration for its
variants, a type for its fields and for its methods, and a constructor for its parameters.
`Document.scopes` reads the scopes off the lines of a document, block by block.

* `ClassHierarchy.scopes_form`, `TaggedUnion.scopes_form`: the scopes of a document are those of its
  table (`Table.scopes`).
* `ClassHierarchy.scopes_nodup`, `TaggedUnion.scopes_nodup`: no scope declares a name twice.  The
  rules of tables keep the declared names and the fields apart, the check of the target keeps them
  apart from the names that the document itself declares, and writing names raw keeps them apart
  (`TaggedUnion.written_inj`).
-/

namespace AstForge

open Text

/-! ### Reading scopes -/

/-- Where names are declared. -/
inductive Place where
  | document
  | variants (type : String)
  | methods (type : String)
  | fields (type : String)
  | parameters (type : String)
  deriving DecidableEq

/-- The names that are declared in one place. -/
structure Scope where
  place : Place
  names : List String
  deriving DecidableEq

namespace Document

/-- The field that a line of a class declares: what stands between the last blank and the
semicolon. -/
def classField? (text : List Char) : Option String :=
  ("final ".toList.isPrefixOf? text).bind fun rest =>
    (splitLast isBlank rest).map fun cut => String.ofList (cut.2.takeWhile (· != ';'))

/-- The parameters that a line declares if it opens the constructor of the class `type`. -/
def parameters? (type : String) (text : List Char) : Option (List String) :=
  ((type ++ "(").toList.isPrefixOf? text).bind fun rest =>
    (splitLast (· == ')') rest).bind fun cut =>
      ((splitFields cut.1).mapM (Field.ofChars type)).toOption.map fun fields =>
        fields.map (·.identifier)

/-- The method that a line of a structure's methods declares, without its type parameters. -/
def method? (text : List Char) : Option String :=
  (scanName "pub fn " '(' text).map fun name =>
    String.ofList (name.toList.takeWhile (· != '<'))

end Document

open Document

/-- The names that the lines of a block declare. -/
def Block.read (b : Block) (name? : List Char → Option String) : List String :=
  b.body.filterMap fun l => name? l.text.toList

/-- A block with one line for each name, between `start` and `stop`. -/
theorem Block.read_scanName {α : Type} {xs : List α} {line : α → Line} {start : String}
    {stop : Char} {g : α → String} {rest : α → List Char}
    (hline : ∀ x, (line x).text.toList = start.toList ++ ((g x).toList ++ stop :: rest x))
    (hname : ∀ x ∈ xs, stop ∉ (g x).toList) (kind : BlockKind) (name : String) :
    Block.read ⟨kind, name, xs.map line⟩ (scanName start stop) = xs.map g := by
  rw [Block.read, List.filterMap_map]
  refine List.filterMap_eq_map_iff_forall_eq_some.mpr fun x hx => ?_
  rw [Function.comp_apply, hline, scanName_append (hname x hx)]

/-- The scopes of a block. -/
def Block.scopes (b : Block) : List Scope :=
  match b.kind with
  | .baseClass => []
  | .interface => [⟨.methods b.name, b.read (scanName "R " '(')⟩]
  | .nestedClass =>
    [⟨.fields b.name, b.read classField?⟩,
     ⟨.parameters b.name, (b.body.filterMap fun l => parameters? b.name l.text.toList).flatten⟩]
  | .enumeration => [⟨.variants b.name, b.read (scanName "" '(')⟩]
  | .trait => [⟨.methods b.name, b.read (scanName "fn " '(')⟩]
  | .record => [⟨.fields b.name, b.read (scanName "" ':')⟩]
  | .impl => [⟨.methods b.name, b.read method?⟩]

/-- The type that a block declares. -/
def Block.type? (b : Block) : Option String :=
  if b.kind = .impl then none else some b.name

/-- The scopes of a document: its types and what its blocks declare. -/
def Document.scopes (target : Target) (ls : List Line) : List Scope :=
  ⟨.document, (blocks target ls).filterMap Block.type?⟩ ::
    (blocks target ls).flatMap Block.scopes

/-! ### The scopes of a table -/

/-- The scopes of the class of a declaration. -/
def ClassHierarchy.typeScopes (s : Shape) : List Scope :=
  [⟨.fields s.name, s.fields.map (·.identifier)⟩,
   ⟨.parameters s.name, s.fields.map (·.identifier)⟩]

/-- The scopes of the structure of a declaration; `methods` are those besides its accessors. -/
def TaggedUnion.typeScopes (methods : List String) (s : Shape) : List Scope :=
  let fields := s.fields.map fun f => TaggedUnion.written f.identifier
  [⟨.fields s.name, fields⟩, ⟨.methods s.name, methods ++ fields⟩]

/-- The scopes of the documents of a table. -/
def Table.scopes (t : Table) : Target → List Scope
  | .java =>
    ⟨.document, t.base :: "Visitor" :: t.declaredShapes.map (·.name)⟩ ::
      ⟨.methods "Visitor", t.shapes.toList.map fun s => visitMethodName s.name t.base⟩ ::
      t.declaredShapes.flatMap ClassHierarchy.typeScopes
  | .rust =>
    let visitor := TaggedUnion.visitorTrait t.base
    ⟨.document, t.base :: visitor :: t.declaredShapes.map (·.name)⟩ ::
      ⟨.variants t.base, t.shapes.toList.map (·.name)⟩ ::
      ⟨.methods visitor,
        t.shapes.toList.map fun s => toSnakeCase (visitMethodName s.name t.base)⟩ ::
      (t.shapes.toList.flatMap (TaggedUnion.typeScopes TaggedUnion.nodeMethods) ++
        t.dataTypes.toList.flatMap (TaggedUnion.typeScopes TaggedUnion.dataMethods) ++
        [⟨.methods t.base, ["accept"]⟩])

/-- Resolving a table keeps the names that it declares. -/
theorem Table.names_resolve (t : Table) :
    t.resolve.shapes.map (·.name) ++ t.resolve.dataTypes.map (·.name) =
      t.declaredShapes.map (·.name) := by
  rw [Table.declaredShapes, List.map_append]
  exact congrArg₂ (· ++ ·) List.map_map List.map_map

/-! ### The class hierarchy -/

namespace ClassHierarchy

/-- A field is read back from the line that declares it. -/
theorem classField?_eq_some (type : String) {name : String} (h : IsWord name.toList) :
    classField? ("final " ++ type ++ " " ++ name ++ ";").toList = some name := by
  have hrest : "final ".toList.isPrefixOf? ("final " ++ type ++ " " ++ name ++ ";").toList =
      some (type.toList ++ ' ' :: (name.toList ++ [';'])) :=
    List.isPrefixOf?_eq_some_iff_append_eq.mpr (by simp)
  -- The type may hold blanks, but the name holds none.
  have hcut : ∀ c ∈ name.toList ++ [';'], isBlank c = false :=
    List.forall_mem_append.mpr ⟨h.isBlank, List.forall_mem_singleton.mpr rfl⟩
  have hname : ∀ c ∈ name.toList, (c != ';') = true := fun c hc => by
    simpa using fun he : c = ';' => h.notMem (c := ';') (by decide) (he ▸ hc)
  rw [classField?, hrest, Option.bind_some, splitLast_append_cons hcut (by decide)]
  simp [List.takeWhile_append_of_pos hname]

theorem classField?_eq_none_of_mark {text : List Char} (h : mark text ≠ some ' ') :
    classField? text = none := by
  rw [classField?, isPrefixOf?_eq_none_of_mark (c := ' ') (by decide) h]
  rfl

/-- A line in which no bracket follows the first word opens no constructor. -/
theorem parameters?_eq_none_of_mark {type : String} (htype : IsWord type.toList)
    {text : List Char} (h : mark text ≠ some '(') : parameters? type text = none := by
  have hmark : mark (type ++ "(").toList = some '(' := by
    rw [String.toList_append, mark_append htype]
    decide
  rw [parameters?, isPrefixOf?_eq_none_of_mark hmark h]
  rfl

/-- The parameters of a constructor are read back as the fields of a declaration are. -/
theorem parameters?_constructor {s : Shape} (hwf : WellFormedFields s.fields) :
    parameters? s.name (s.name ++ "(" ++ ", ".intercalate (s.fields.map Field.render) ++
      ") \x7b").toList = some (s.fields.map (·.identifier)) := by
  have hrest : (s.name ++ "(").toList.isPrefixOf? (s.name ++ "(" ++
      ", ".intercalate (s.fields.map Field.render) ++ ") \x7b").toList =
      some ([',', ' '].intercalate (s.fields.map fun f => f.render.toList) ++
        ')' :: " \x7b".toList) :=
    List.isPrefixOf?_eq_some_iff_append_eq.mpr
      (by simp [String.toList_intercalate, Function.comp_def])
  have hread : (splitFields ([',', ' '].intercalate (s.fields.map fun f => f.render.toList))).mapM
      (Field.ofChars s.name) = .ok s.fields :=
    readFields_eq_ok_iff.mpr ⟨hwf, fieldsWrittenAs_render s.fields⟩
  -- A type may hold parentheses of its own; the last one closes the list.
  have hcut : ∀ c ∈ " \x7b".toList, (c == ')') = false := by simp
  rw [parameters?, hrest, Option.bind_some, splitLast_append_cons hcut (by decide),
    Option.bind_some, hread]
  rfl

variable {base : String} {s : Shape}

/-- A constructor declares its parameters, and no field. -/
theorem read_constructor (hs : (s.resolveData base).Words) (hwf : WellFormedFields s.fields) :
    (constructor (s.resolveData base)).filterMap (fun l => classField? l.text.toList) = [] ∧
      (constructor (s.resolveData base)).filterMap (fun l => parameters? s.name l.text.toList) =
        [s.fields.map (·.identifier)] := by
  have hset : ∀ f : ResolvedField,
      mark ("this." ++ f.identifier ++ " = " ++ f.identifier ++ ";").toList = some '.' := by
    simp [mark_cons, isIdentifierRest]
  have hopen : mark ((s.resolveData base).name ++ "(" ++ ", ".intercalate
      ((s.resolveData base).fields.map fun f => f.type ++ " " ++ f.identifier) ++
      ") \x7b").toList = some '(' := by
    simp only [String.toList_append, List.append_assoc]
    rw [mark_append hs.name]
    simp [mark_cons, isIdentifierRest]
  constructor
  · simp only [List.filterMap_eq_nil_iff, constructor, List.cons_append, List.forall_mem_cons,
      List.forall_mem_append, List.forall_mem_map]
    exact ⟨classField?_eq_none_of_mark (by rw [hopen]; decide),
      fun f _ => classField?_eq_none_of_mark (by rw [hset]; decide),
      classField?_eq_none_of_mark (by decide), by simp⟩
  · have hread := parameters?_constructor hwf
    have hparameters : (s.resolveData base).fields.map (fun f => f.type ++ " " ++ f.identifier) =
        s.fields.map Field.render :=
      List.map_map
    rw [← hparameters] at hread
    rw [constructor, List.cons_append, ← List.nil_append (_ :: _)]
    refine (filterMap_between (P := fun l => mark l.text.toList ≠ some '(')
      (fun l => parameters?_eq_none_of_mark hs.name) (by simp) ?_ _).trans ?_
    · simp only [List.forall_mem_append, List.forall_mem_map]
      exact ⟨fun f _ => by rw [hset]; decide, by decide⟩
    · exact congrArg Option.toList hread

theorem read_fieldLines (hs : (s.resolveData base).Words) :
    (fieldLines (s.resolveData base)).filterMap (fun l => classField? l.text.toList) =
        s.fields.map (·.identifier) ∧
      (fieldLines (s.resolveData base)).filterMap (fun l => parameters? s.name l.text.toList) =
        [] := by
  rw [fieldLines]
  split
  · next hempty =>
      have hnil : s.fields = [] := by simpa [Shape.resolveData] using hempty
      simp [hnil]
  · constructor
    · have hblank : classField? Line.blank.text.toList = none :=
        classField?_eq_none_of_mark (by decide)
      have hread : (s.resolveData base).fields.filterMap
          (fun f => classField? ("final " ++ f.type ++ " " ++ f.identifier ++ ";").toList) =
            (s.resolveData base).fields.map (·.identifier) :=
        List.filterMap_eq_map_iff_forall_eq_some.mpr fun f hf =>
          classField?_eq_some f.type (hs.identifiers f hf)
      rw [List.filterMap_cons, hblank, List.filterMap_map]
      exact hread.trans List.map_map
    · simp only [List.filterMap_eq_nil_iff, List.forall_mem_cons, List.forall_mem_map]
      refine ⟨parameters?_eq_none_of_mark hs.name (by decide),
        fun f _ => parameters?_eq_none_of_mark hs.name ?_⟩
      simp [mark_cons, isIdentifierRest]

theorem scopes_dataBody (hs : (s.resolveData base).Words) (hwf : WellFormedFields s.fields) :
    Block.scopes ⟨.nestedClass, s.name, dataBody (s.resolveData base)⟩ = typeScopes s := by
  obtain ⟨hfields, hparameters⟩ := read_constructor hs hwf
  obtain ⟨hfields', hparameters'⟩ := read_fieldLines hs
  simp [Block.scopes, Block.read, dataBody, hfields, hparameters, hfields', hparameters',
    typeScopes]

/-- The method that accepts a visitor declares neither fields nor parameters. -/
theorem read_acceptMethod (s : ResolvedShape) (type : String) (htype : IsWord type.toList) :
    (acceptMethod s).filterMap (fun l => classField? l.text.toList) = [] ∧
      (acceptMethod s).filterMap (fun l => parameters? type l.text.toList) = [] := by
  have hcall : mark ("return visitor." ++ s.visitMethod ++ "(this);").toList = some ' ' := by
    simp [mark_cons, isIdentifierRest]
  simp only [List.filterMap_eq_nil_iff, acceptMethod, List.forall_mem_cons]
  refine ⟨⟨classField?_eq_none_of_mark (by decide), classField?_eq_none_of_mark (by decide), ?_,
    classField?_eq_none_of_mark (by decide), by simp⟩,
    parameters?_eq_none_of_mark htype (by decide), parameters?_eq_none_of_mark htype (by decide),
    parameters?_eq_none_of_mark htype (by rw [hcall]; decide),
    parameters?_eq_none_of_mark htype (by decide), by simp⟩
  -- The call has a blank after its first word, as a field has, but the word is another.
  simp [classField?, List.isPrefixOf?]

/-- The class of a shape has the scopes of its declaration. -/
theorem scopes_nodeBody (hs : (s.resolveData base).Words) (hwf : WellFormedFields s.fields) :
    Block.scopes ⟨.nestedClass, s.name, nodeBody (s.resolve base)⟩ = typeScopes s := by
  obtain ⟨hfields, hparameters⟩ := read_constructor hs hwf
  obtain ⟨hfields', hparameters'⟩ := read_fieldLines hs
  obtain ⟨haccept, haccept'⟩ := read_acceptMethod (s.resolve base) s.name hs.name
  have hblank : classField? Line.blank.text.toList = none ∧
      parameters? s.name Line.blank.text.toList = none :=
    ⟨classField?_eq_none_of_mark (by decide), parameters?_eq_none_of_mark hs.name (by decide)⟩
  have hdata : (s.resolve base).toResolvedData = s.resolveData base := rfl
  simp [Block.scopes, Block.read, nodeBody, -List.filterMap_eq_nil_iff, hdata, hfields,
    hparameters, hfields', hparameters', haccept, haccept', hblank, typeScopes]

/-- The interface declares the visit methods. -/
theorem scopes_visitor {t : ResolvedTable} (ht : t.Words) :
    Block.scopes ⟨.interface, "Visitor", t.shapes.map (declarationLine t)⟩ =
      [⟨.methods "Visitor", t.shapes.map (·.visitMethod)⟩] := by
  have hline : ∀ s, (declarationLine t s).text.toList = "R ".toList ++ (s.visitMethod.toList ++
      '(' :: (s.name ++ " " ++ t.visitorParameter ++ ");").toList) := by
    simp [declarationLine]
  have hname : ∀ s ∈ t.shapes, '(' ∉ s.visitMethod.toList :=
    fun s hs => (ht.visitMethods s hs).notMem (by decide)
  simp only [Block.scopes, Block.read_scanName hline hname]

/-- **The scopes of a class hierarchy** are those of its table. -/
theorem scopes_form {cfg : Config} (htarget : cfg.target = .java) {t : Table} (ht : t.WellFormed) :
    scopes .java (form cfg t.resolve) = t.scopes .java := by
  obtain ⟨body, hblocks⟩ := blocks_form htarget ht.words_resolve
  have htypes : (blocks .java (form cfg t.resolve)).filterMap Block.type? =
      t.base :: "Visitor" :: t.declaredShapes.map (·.name) := by
    have hbase : t.resolve.base = t.base := rfl
    rw [hblocks, ← t.names_resolve]
    simp [Block.type?, List.filterMap_flatMap, List.map_eq_flatMap, hbase]
  have hshapes : t.resolve.shapes.flatMap (fun s =>
      Block.scopes ⟨.nestedClass, s.name, nodeBody s⟩) = t.shapes.toList.flatMap typeScopes :=
    (List.flatMap_map _ _ _).trans (List.flatMap_congr fun s hs =>
      have hmem := List.mem_append_left _ hs
      scopes_nodeBody (ht.words_resolveData hmem) (ht.fields s hmem))
  have hdataTypes : t.resolve.dataTypes.flatMap (fun d =>
      Block.scopes ⟨.nestedClass, d.name, dataBody d⟩) = t.dataTypes.toList.flatMap typeScopes :=
    (List.flatMap_map _ _ _).trans (List.flatMap_congr fun s hs =>
      have hmem := List.mem_append_right _ hs
      scopes_dataBody (ht.words_resolveData hmem) (ht.fields s hmem))
  have hmethods : t.resolve.shapes.map (·.visitMethod) =
      t.shapes.toList.map fun s => visitMethodName s.name t.base :=
    List.map_map
  rw [scopes, htypes, hblocks]
  simp only [List.flatMap_cons, List.flatMap_append, List.flatMap_assoc, List.flatMap_nil,
    List.append_nil, hshapes, hdataTypes, scopes_visitor ht.words_resolve, hmethods]
  simp [Table.scopes, Table.declaredShapes, Block.scopes]

end ClassHierarchy

/-! ### The tagged union -/

namespace TaggedUnion

theorem method?_eq_none {text : List Char} (h : "pub fn ".toList.isPrefixOf? text = none) :
    method? text = none := by
  rw [method?, scanName, scan_eq_none h]
  rfl

theorem method?_eq_none_of_mark {text : List Char} (h : mark text ≠ some ' ') :
    method? text = none :=
  method?_eq_none (isPrefixOf?_eq_none_of_mark (c := ' ') (by decide) h)

theorem method?_blank : method? Line.blank.text.toList = none :=
  method?_eq_none_of_mark (by decide)

theorem method?_closing : method? "\x7d".toList = none :=
  method?_eq_none_of_mark (by decide)

/-- A method is read back from the line that opens it. -/
theorem method?_append {name : String} (hopen : '(' ∉ name.toList) (hparameter : '<' ∉ name.toList)
    (rest : List Char) :
    method? ("pub fn ".toList ++ (name.toList ++ '(' :: rest)) = some name := by
  have hname : ∀ c ∈ name.toList, (c != '<') = true := fun c hc => by
    simpa using fun he : c = '<' => hparameter (he ▸ hc)
  rw [method?, scanName_append hopen, Option.map_some, List.takeWhile_eq_self_iff.mpr hname,
    String.ofList_toList]

theorem method?_acceptOpening (base : String) :
    method? (acceptOpening base).text.toList = some "accept" := by
  have htext : (acceptOpening base).text.toList = "pub fn ".toList ++ ("accept<R>".toList ++
      '(' :: ("&self, visitor: &mut dyn " ++ visitorTrait base ++ "<R>) -> R \x7b").toList) := by
    simp [acceptOpening]
  rw [htext, method?, scanName_append (by decide)]
  decide

theorem mark_written_append {name : String} (h : IsWord name.toList) {c : Char}
    (hc : isIdentifierRest c = false) (hne : c ≠ ' ') (rest : List Char) :
    mark ((written name).toList ++ c :: rest) ≠ some ' ' := by
  rcases toList_written name with hw | hw
  · rw [hw, mark_append h, mark_cons, hc]
    simpa using hne
  · simp [hw, mark_cons, isIdentifierRest]

variable {fs : List ResolvedField}

/-- A constructor declares the method `new` alone. -/
theorem read_constructor (doc : String) (hfs : ∀ f ∈ fs, IsWord f.identifier.toList) :
    (constructor doc (fs.map NamedField.ofField)).filterMap (fun l => method? l.text.toList) =
      ["new"] := by
  have hnew : ∀ parameters : String,
      method? ("pub fn new(" ++ parameters ++ ") -> Self \x7b").toList = some "new" := by
    intro parameters
    have hread : method? ("pub fn ".toList ++ ("new".toList ++
        '(' :: (parameters ++ ") -> Self \x7b").toList)) = some "new" :=
      method?_append (by decide) (by decide) _
    simpa using hread
  have hinitializer : ∀ f ∈ fs, mark (initializer (NamedField.ofField f)).toList ≠ some ' ' := by
    intro f hf
    rw [initializer]
    split <;> simp only [String.toList_append, List.append_assoc]
    · exact mark_written_append (hfs f hf) (by decide) (by decide) _
    · exact mark_written_append (hfs f hf) (by decide) (by decide) _
  have hdoc : mark ("/// " ++ doc).toList ≠ some ' ' := by simp [mark_cons, isIdentifierRest]
  have hset : ((fs.map NamedField.ofField).map fun f => (⟨3, initializer f⟩ : Line)).filterMap
      (fun l => method? l.text.toList) = [] := by
    simp only [List.filterMap_eq_nil_iff, List.forall_mem_map]
    exact fun f hf => method?_eq_none_of_mark (hinitializer f hf)
  have hself : method? "Self \x7b".toList = none := by decide
  simp only [constructor, List.filterMap_append, List.filterMap_cons, List.filterMap_nil,
    method?_eq_none_of_mark hdoc, hnew, hself, hset, method?_closing, List.append_nil]

/-- An accessor is read back by the name of its field, raw or not. -/
theorem method?_accessor (type : String) {name : String} (h : IsWord name.toList) :
    method? ("pub fn " ++ written name ++ "(&self) -> &" ++ type ++ " \x7b").toList =
      some (written name) := by
  have hread : method? ("pub fn ".toList ++ ((written name).toList ++
      '(' :: ("&self) -> &" ++ type ++ " \x7b").toList)) = some (written name) :=
    method?_append (notMem_written h (by decide) (by decide))
      (notMem_written h (by decide) (by decide)) _
  simpa using hread

/-- The accessors declare a method for each field. -/
theorem read_accessors (hfs : ∀ f ∈ fs, IsWord f.identifier.toList) :
    (accessors (fs.map NamedField.ofField)).filterMap (fun l => method? l.text.toList) =
      fs.map fun f => written f.identifier := by
  have hbody : ∀ f : ResolvedField, method? ("&self." ++ written f.identifier).toList = none :=
    fun f => method?_eq_none_of_mark (by simp [mark_cons, isIdentifierRest])
  rw [accessors, List.flatMap_map, List.filterMap_flatMap, List.map_eq_flatMap]
  refine List.flatMap_congr fun f hf => ?_
  simp only [List.filterMap_cons, List.filterMap_nil, NamedField.ofField,
    method?_accessor f.type (hfs f hf), hbody, method?_blank, method?_closing]

variable {t : ResolvedTable}

/-- A structure declares its fields. -/
theorem scopes_record {d : ResolvedData} (hd : d.Words) :
    Block.scopes ⟨.record, d.name, d.fields.map (fieldLine t)⟩ =
      [⟨.fields d.name, d.fields.map fun f => written f.identifier⟩] := by
  have hline : ∀ f, (fieldLine t f).text.toList = "".toList ++ ((written f.identifier).toList ++
      ':' :: (" " ++ storedType t.base f ++ ",").toList) := by
    simp [fieldLine]
  have hname : ∀ f ∈ d.fields, ':' ∉ (written f.identifier).toList :=
    fun f hf => notMem_written (hd.identifiers f hf) (by decide) (by decide)
  simp only [Block.scopes, Block.read_scanName hline hname]

/-- The scope of the methods of a data type. -/
theorem scopes_dataMethodLines {d : ResolvedData} (hd : d.Words) :
    Block.scopes ⟨.impl, d.name, dataMethodLines d⟩ =
      [⟨.methods d.name, dataMethods ++ d.fields.map fun f => written f.identifier⟩] := by
  simp only [Block.scopes, Block.read, dataMethodLines, List.filterMap_append,
    read_constructor _ hd.identifiers, read_accessors hd.identifiers, dataMethods]

/-- The scope of the methods of a shape. -/
theorem scopes_nodeMethodLines {s : ResolvedShape} (hs : s.toResolvedData.Words) :
    Block.scopes ⟨.impl, s.name, nodeMethodLines t s⟩ =
      [⟨.methods s.name, nodeMethods ++ s.fields.map fun f => written f.identifier⟩] := by
  have haccept : (Line.blank :: acceptMethod t s).filterMap (fun l => method? l.text.toList) =
      ["accept"] := by
    have hcall : method? ("visitor." ++ s.visitMethodSnake ++ "(self)").toList = none :=
      method?_eq_none_of_mark (by simp [mark_cons, isIdentifierRest])
    simp only [acceptMethod, List.filterMap_cons, List.filterMap_nil, method?_acceptOpening, hcall,
      method?_blank, method?_closing]
  simp only [Block.scopes, Block.read, nodeMethodLines, List.filterMap_append, haccept,
    read_constructor _ hs.identifiers, read_accessors hs.identifiers, nodeMethods, List.cons_append,
    List.nil_append]

/-- The enumeration declares a variant for each shape. -/
theorem scopes_variants (ht : t.Words) :
    Block.scopes ⟨.enumeration, t.base, t.shapes.map variantLine⟩ =
      [⟨.variants t.base, t.shapes.map (·.name)⟩] := by
  have hline : ∀ s, (variantLine s).text.toList =
      "".toList ++ (s.name.toList ++ '(' :: (s.name ++ "),").toList) := by
    simp [variantLine]
  have hname : ∀ s ∈ t.shapes, '(' ∉ s.name.toList :=
    fun s hs => (ht.shapes s hs).name.notMem (by decide)
  simp only [Block.scopes, Block.read_scanName hline hname]

/-- The trait declares the visit methods. -/
theorem scopes_visitor (ht : t.Words) :
    Block.scopes ⟨.trait, visitorTrait t.base, t.shapes.map (declarationLine t)⟩ =
      [⟨.methods (visitorTrait t.base), t.shapes.map (·.visitMethodSnake)⟩] := by
  have hline : ∀ s, (declarationLine t s).text.toList =
      "fn ".toList ++ (s.visitMethodSnake.toList ++ '(' :: ("&mut self, " ++
        written t.visitorParameter ++ ": &" ++ s.name ++ ") -> R;").toList) := by
    simp [declarationLine]
  have hname : ∀ s ∈ t.shapes, '(' ∉ s.visitMethodSnake.toList :=
    fun s hs => (isWord_toSnakeCase (ht.visitMethods s hs)).notMem (by decide)
  simp only [Block.scopes, Block.read_scanName hline hname]

/-- The base type has the one method `accept`. -/
theorem scopes_dispatchLines (ht : t.Words) :
    Block.scopes ⟨.impl, t.base, dispatchLines t⟩ = [⟨.methods t.base, ["accept"]⟩] := by
  have harms : (t.shapes.map (armLine t)).filterMap (fun l => method? l.text.toList) = [] := by
    rw [List.filterMap_eq_nil_iff, List.forall_mem_map]
    exact fun s _ => method?_eq_none_of_mark (by simp [mark_armLine ht.base s])
  have hmatch : method? "match self \x7b".toList = none := by decide
  simp only [Block.scopes, Block.read, dispatchLines, List.filterMap_append, List.filterMap_cons,
    List.filterMap_nil, method?_acceptOpening, hmatch, harms, method?_closing, List.append_nil]

/-- **The scopes of a tagged union** are those of its table. -/
theorem scopes_form {cfg : Config} (htarget : cfg.target = .rust) {t : Table} (ht : t.WellFormed) :
    scopes .rust (form cfg t.resolve) = t.scopes .rust := by
  have hwords := ht.words_resolve
  have hblocks := blocks_form htarget hwords
  have htypes : (blocks .rust (form cfg t.resolve)).filterMap Block.type? =
      t.base :: visitorTrait t.base :: t.declaredShapes.map (·.name) := by
    have hbase : t.resolve.base = t.base := rfl
    rw [hblocks, ← t.names_resolve]
    simp [Block.type?, List.filterMap_flatMap, List.map_eq_flatMap, hbase]
  have hfields : ∀ s : Shape, (s.resolveData t.base).fields.map (fun f => written f.identifier) =
      s.fields.map fun f => written f.identifier :=
    fun s => List.map_map
  have hshapes : t.resolve.shapes.flatMap (fun s =>
      Block.scopes ⟨.record, s.name, s.fields.map (fieldLine t.resolve)⟩ ++
        Block.scopes ⟨.impl, s.name, nodeMethodLines t.resolve s⟩) =
      t.shapes.toList.flatMap (typeScopes nodeMethods) := by
    refine (List.flatMap_map _ _ _).trans (List.flatMap_congr fun s hs => ?_)
    have hs' := ht.words_resolveData (List.mem_append_left _ hs)
    rw [scopes_record (d := (s.resolve t.base).toResolvedData) hs', scopes_nodeMethodLines hs',
      typeScopes, ← hfields s]
    rfl
  have hdataTypes : t.resolve.dataTypes.flatMap (fun d =>
      Block.scopes ⟨.record, d.name, d.fields.map (fieldLine t.resolve)⟩ ++
        Block.scopes ⟨.impl, d.name, dataMethodLines d⟩) =
      t.dataTypes.toList.flatMap (typeScopes dataMethods) := by
    refine (List.flatMap_map _ _ _).trans (List.flatMap_congr fun s hs => ?_)
    have hs' := ht.words_resolveData (List.mem_append_right _ hs)
    rw [scopes_record hs', scopes_dataMethodLines hs', typeScopes, ← hfields s]
    rfl
  have hmethods : t.resolve.shapes.map (·.visitMethodSnake) =
      t.shapes.toList.map fun s => toSnakeCase (visitMethodName s.name t.base) :=
    List.map_map
  have hvariants : t.resolve.shapes.map (·.name) = t.shapes.toList.map (·.name) := List.map_map
  rw [scopes, htypes, hblocks]
  simp only [List.flatMap_cons, List.flatMap_append, List.flatMap_assoc, List.flatMap_nil,
    List.append_nil, hshapes, hdataTypes, scopes_visitor hwords, hmethods,
    scopes_variants hwords, hvariants, scopes_dispatchLines hwords]
  rfl

/-- Writing names raw keeps them apart: a raw name holds a mark that no word holds. -/
theorem written_inj {a b : String} (ha : IsWord a.toList) (hb : IsWord b.toList)
    (h : written a = written b) : a = b := by
  have hmark : ∀ {name : String}, IsWord name.toList → '#' ∉ name.toList :=
    fun hname => hname.notMem (by decide)
  have hlist := congrArg String.toList h
  refine String.toList_inj.mp ?_
  rcases toList_written a with ha' | ha' <;> rcases toList_written b with hb' | hb' <;>
    rw [ha', hb'] at hlist
  · exact hlist
  · exact absurd (hlist ▸ by simp) (hmark ha)
  · exact absurd (hlist ▸ by simp) (hmark hb)
  · simpa using hlist

/-- Different names are written differently. -/
theorem nodup_map_written {names : List String} (hwords : ∀ name ∈ names, IsWord name.toList)
    (h : names.Nodup) : (names.map written).Nodup :=
  List.Nodup.map_on (fun a ha b hb => written_inj (hwords a ha) (hwords b hb)) h

/-- The fields of a structure differ, and so do its methods.  A method that the structure has itself
is no accessor: it would be that of a field of the same name, since it is no keyword. -/
theorem typeScopes_nodup {methods : List String} {s : Shape}
    (hfields : (s.fields.map (·.identifier)).Nodup)
    (hwords : ∀ f ∈ s.fields, IsWord f.identifier.toList)
    (hmethods : methods.Nodup) (hown : ∀ m ∈ methods, IsWord m.toList ∧ written m = m)
    (hfree : ∀ f ∈ s.fields, f.identifier ∉ methods) :
    ∀ scope ∈ typeScopes methods s, scope.names.Nodup := by
  have hnodup : (s.fields.map fun f => written f.identifier).Nodup := by
    have h := nodup_map_written (List.forall_mem_map.mpr hwords) hfields
    rwa [List.map_map] at h
  simp only [typeScopes, List.forall_mem_cons]
  refine ⟨hnodup, List.nodup_append.mpr ⟨hmethods, hnodup, ?_⟩, by simp⟩
  rintro m hm _ hf rfl
  obtain ⟨f, hf, heq⟩ := List.mem_map.mp hf
  -- `m` is written as it is, so the field would have that very name.
  obtain ⟨hword, hwritten⟩ := hown m hm
  rw [← hwritten] at heq
  exact hfree f hf (written_inj (hwords f hf) hword heq ▸ hm)

end TaggedUnion

/-! ### Names differ -/

/-- What holds of the resolved shapes and data types holds of every declaration. -/
theorem Table.forall_declaredShapes {t : Table} {P : ResolvedData → Prop}
    (hshapes : ∀ s ∈ t.resolve.shapes, P s.toResolvedData)
    (hdata : ∀ d ∈ t.resolve.dataTypes, P d) :
    ∀ s ∈ t.declaredShapes, P (s.resolveData t.base) := by
  intro s hs
  rcases List.mem_append.mp hs with hs | hs
  · exact hshapes _ (List.mem_map_of_mem hs)
  · exact hdata _ (List.mem_map_of_mem hs)

namespace Table.Valid

variable {t : Table} (ht : t.Valid)
include ht

theorem nodup_shapes : (t.shapes.toList.map (·.name)).Nodup := by
  have hnodup := ht.nodup
  rw [Table.declaredShapes, List.map_append] at hnodup
  exact hnodup.of_append_left

/-- The types of a document differ if the visitor is none of the table's types. -/
theorem nodup_types {visitor : String} (hbase : t.base ≠ visitor)
    (hdeclared : ∀ s ∈ t.declaredShapes, s.name ≠ visitor) :
    (t.base :: visitor :: t.declaredShapes.map (·.name)).Nodup := by
  have hvisitor : visitor ∉ t.declaredShapes.map (·.name) := by
    intro hm
    obtain ⟨s, hs, heq⟩ := List.mem_map.mp hm
    exact hdeclared s hs heq
  refine List.nodup_cons.mpr ⟨?_, List.nodup_cons.mpr ⟨hvisitor, ht.nodup⟩⟩
  exact List.not_mem_cons_of_ne_of_not_mem hbase ht.base_notMem

end Table.Valid

/-- A visit method tells the shape. -/
theorem visitMethodName_inj {base a b : String}
    (h : visitMethodName a base = visitMethodName b base) : a = b := by
  have hlist := congrArg String.toList h
  simp only [visitMethodName, String.toList_append] at hlist
  exact String.toList_inj.mp (List.append_cancel_left (List.append_cancel_right hlist))

/-- **No two declarations of a class hierarchy collide.** -/
theorem ClassHierarchy.scopes_nodup {t : Table} (ht : t.Valid) (hw : Writable t.resolve) :
    ∀ scope ∈ t.scopes .java, scope.names.Nodup := by
  have htaken : ∀ s ∈ t.declaredShapes, s.name ∉ takenTypes :=
    Table.forall_declaredShapes (P := fun d => d.name ∉ takenTypes)
      (fun s hs => (hw.shapes s hs).taken) fun d hd => (hw.dataTypes d hd).taken
  have hvisitor : ∀ name ∉ takenTypes, name ≠ "Visitor" := by
    rintro name hname rfl
    exact hname (by decide)
  simp only [Table.scopes, List.forall_mem_cons, List.forall_mem_flatMap, typeScopes]
  refine ⟨ht.nodup_types (hvisitor _ hw.taken) fun s hs => hvisitor _ (htaken s hs), ?_,
    fun s hs => ⟨ht.fields s hs, ht.fields s hs, by simp⟩⟩
  have hnames := List.Nodup.map (f := fun name => visitMethodName name t.base)
    (fun _ _ => visitMethodName_inj) ht.nodup_shapes
  rwa [List.map_map] at hnames

/-- No name is its own visitor's. -/
theorem TaggedUnion.ne_visitorTrait (base : String) : base ≠ visitorTrait base := by
  intro h
  have hlength := congrArg (fun name => name.toList.length) h
  simp [visitorTrait] at hlength

/-- **No two declarations of a tagged union collide.** -/
theorem TaggedUnion.scopes_nodup {t : Table} (ht : t.WellFormed) (hw : Writable t.resolve) :
    ∀ scope ∈ t.scopes .rust, scope.names.Nodup := by
  have hvalid := Table.validate_eq_ok_iff.mp ht.valid
  have hvisitor : ∀ s ∈ t.declaredShapes, s.name ≠ visitorTrait t.base :=
    Table.forall_declaredShapes (P := fun d => d.name ≠ visitorTrait t.base)
      (fun s hs => (hw.shapes s hs).visitor) fun d hd => (hw.dataTypes d hd).visitor
  have hfields : ∀ s ∈ t.declaredShapes, ∀ f ∈ s.fields, IsWord f.identifier.toList :=
    fun s hs f hf => ((ht.fields s hs).readable f hf).isWord
  have hnode : ∀ s ∈ t.shapes.toList, ∀ f ∈ s.fields, f.identifier ∉ nodeMethods :=
    fun s hs f hf => (hw.shapes _ (List.mem_map_of_mem hs)).methods _ (List.mem_map_of_mem hf)
  have hdata : ∀ s ∈ t.dataTypes.toList, ∀ f ∈ s.fields, f.identifier ∉ dataMethods :=
    fun s hs f hf => (hw.dataTypes _ (List.mem_map_of_mem hs)).methods _ (List.mem_map_of_mem hf)
  have hmethods := hw.visitMethods
  rw [Table.resolve, List.map_map] at hmethods
  simp only [Table.scopes, List.forall_mem_cons, List.forall_mem_append, List.forall_mem_flatMap]
  refine ⟨hvalid.nodup_types (ne_visitorTrait t.base) hvisitor, hvalid.nodup_shapes, hmethods,
    ⟨fun s hs => ?_, fun s hs => ?_⟩, by simp⟩
  · have hmem : s ∈ t.declaredShapes := List.mem_append_left _ hs
    exact typeScopes_nodup (hvalid.fields s hmem) (hfields s hmem) (by decide) (by decide)
      (hnode s hs)
  · have hmem : s ∈ t.declaredShapes := List.mem_append_right _ hs
    exact typeScopes_nodup (hvalid.fields s hmem) (hfields s hmem) (by decide) (by decide)
      (hdata s hs)

/-- The scopes of a document are those of its table, and no name is declared twice in one. -/
theorem Table.scope_names_differ {base : String} {texts : List String} {t : Table} {cfg : Config}
    {doc : String} (ht : Table.ofDeclarations base texts = .ok t)
    (hdoc : t.generate cfg = .ok doc) :
    ∃ ls, Document.lines cfg t.resolve = .ok ls ∧ doc = renderLines cfg.indent ls ∧
      Document.scopes cfg.target ls = t.scopes cfg.target ∧
      ∀ scope ∈ Document.scopes cfg.target ls, scope.names.Nodup := by
  have hwf := Table.wellFormed_of_ofDeclarations ht
  obtain ⟨hcheck, rfl⟩ := Table.generate_eq_ok_iff.mp hdoc
  refine ⟨_, Document.lines_eq_ok_iff.mpr ⟨hcheck, rfl⟩, rfl, ?_⟩
  unfold Document.check at hcheck
  cases htarget : cfg.target with
  | java =>
      simp only [htarget] at hcheck
      rw [ClassHierarchy.scopes_form htarget hwf]
      exact ⟨rfl, ClassHierarchy.scopes_nodup (Table.validate_eq_ok_iff.mp hwf.valid)
        (ClassHierarchy.check_eq_ok_iff.mp hcheck)⟩
  | rust =>
      simp only [htarget] at hcheck
      rw [TaggedUnion.scopes_form htarget hwf]
      exact ⟨rfl, TaggedUnion.scopes_nodup hwf (TaggedUnion.check_eq_ok_iff.mp hcheck)⟩

/-- A table with fields that are keywords, or methods of shapes only. -/
def keywordTable : Table :=
  ((Table.empty "Expr").addShape ⟨"Let", [⟨"Token", "type"⟩, ⟨"Map<String, Expr>", "fn"⟩]⟩)
    |>.addDataType ⟨"Pair", [⟨"Expr", "accept"⟩]⟩

/-- Settings that put braces and line feeds of their own into a document. -/
def unrulyConfig (target : Target) : Config :=
  ⟨target, "\x7d\n", some "a;\n\x7d", ["b\nimpl Let \x7b"], some "\x7d",
    ["C)]\npub struct Let \x7b"]⟩

theorem scope_names_differ_keywordTable :
    Table.ofDeclarations " Expr"
        ["Let: Token type, Map<String, Expr> fn", "struct Pair: Expr accept"] = .ok keywordTable ∧
    ∃ classes union, Document.lines (unrulyConfig .java) keywordTable.resolve = .ok classes ∧
      Document.lines (unrulyConfig .rust) keywordTable.resolve = .ok union ∧
      (∀ scope ∈ Document.scopes .java classes, scope.names.Nodup) ∧
      (∀ scope ∈ Document.scopes .rust union, scope.names.Nodup) ∧
      ⟨.parameters "Let", ["type", "fn"]⟩ ∈ Document.scopes .java classes ∧
      ⟨.methods "Let", ["new", "accept", "r#type", "r#fn"]⟩ ∈ Document.scopes .rust union ∧
      ⟨.methods "Pair", ["new", "accept"]⟩ ∈ Document.scopes .rust union := by
  have ht : Table.ofDeclarations " Expr"
      ["Let: Token type, Map<String, Expr> fn", "struct Pair: Expr accept"] = .ok keywordTable :=
    rfl
  have hcheck : ∀ target, check (unrulyConfig target) keywordTable.resolve = .ok ()
    | .java => by decide +kernel
    | .rust => by decide +kernel
  obtain ⟨classes, hclasses, -, hscopes, hnodup⟩ :=
    Table.scope_names_differ ht (Table.generate_eq_ok_iff.mpr ⟨hcheck .java, rfl⟩)
  obtain ⟨union, hunion, -, hscopes', hnodup'⟩ :=
    Table.scope_names_differ ht (Table.generate_eq_ok_iff.mpr ⟨hcheck .rust, rfl⟩)
  replace hscopes : Document.scopes .java classes = keywordTable.scopes .java := hscopes
  replace hscopes' : Document.scopes .rust union = keywordTable.scopes .rust := hscopes'
  refine ⟨ht, classes, union, hclasses, hunion, hnodup, hnodup', ?_⟩
  rw [hscopes, hscopes']
  decide +kernel

end AstForge
