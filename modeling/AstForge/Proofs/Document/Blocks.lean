import AstForge.Proofs.Document.Reading

/-!
# Documents — blocks

A block is what stands between a line that opens it and the brace that closes it, at the same depth.
`blocks` reads the blocks that declare a type or its methods, nested ones included, by the way their
first lines start.  The readers look at the lines of a document, so nothing is asked of the texts
that the table and the settings put into a line.

`ClassHierarchy.blocks_form` and `TaggedUnion.blocks_form` say which blocks a document has: one or
two for each declaration, in the order of the table, besides those of the base type and the visitor.
-/

namespace AstForge

open Text

/-! ### Reading blocks -/

/-- What a block declares. -/
inductive BlockKind where
  | baseClass
  | interface
  | nestedClass
  | enumeration
  | trait
  | record
  | impl
  deriving DecidableEq

/-- A block: what it declares, the name that its first line gives and the lines inside. -/
structure Block where
  kind : BlockKind
  name : String
  body : List Line

namespace Document

/-- The patterns of the lines that open a block. -/
def headers : Target → List (BlockKind × List (String × Char))
  | .java =>
    [(.baseClass, [("abstract class ", ' ')]), (.interface, [("interface ", '<')]),
     (.nestedClass, [("static class ", ' ')])]
  | .rust =>
    [(.enumeration, [("pub enum ", ' ')]), (.trait, [("pub trait ", '<')]),
     (.record, [("pub struct ", ' ')]), (.impl, [("impl ", ' '), ("\x7b", ' ')])]

/-- The kind and the name of the block that a line opens. -/
def header? (target : Target) (text : List Char) : Option (BlockKind × String) :=
  (headers target).findSome? fun header =>
    ((scan header.2 text).bind List.head?).map fun name => (header.1, name)

/-- The blocks that some lines open. -/
def blocks (target : Target) : List Line → List Block
  | [] => []
  | l :: ls =>
    match header? target l.text.toList with
    | some (kind, name) =>
      ⟨kind, name, ls.takeWhile (· ≠ (⟨l.depth, "\x7d"⟩ : Line))⟩ :: blocks target ls
    | none => blocks target ls

variable {target : Target}

/-- How the lines start that open a block. -/
def headerStarts : Target → List String
  | .java => ["abstract class ", "interface ", "static class "]
  | .rust => ["pub enum ", "pub trait ", "pub struct ", "impl "]

/-- A line that fits no header opens no block. -/
theorem header?_eq_none_of_scan {text : List Char}
    (h : ∀ header ∈ headers target, scan header.2 text = none) : header? target text = none := by
  refine List.findSome?_eq_none_iff.mpr fun header hheader => ?_
  rw [h header hheader]
  rfl

theorem header?_eq_none {text : List Char}
    (h : ∀ start ∈ headerStarts target, start.toList.isPrefixOf? text = none) :
    header? target text = none := by
  refine header?_eq_none_of_scan ?_
  cases target with
  | java =>
      simp [headers, scan_eq_none (h "abstract class " (by decide)),
        scan_eq_none (h "interface " (by decide)), scan_eq_none (h "static class " (by decide))]
  | rust =>
      simp [headers, scan_eq_none (h "pub enum " (by decide)),
        scan_eq_none (h "pub trait " (by decide)), scan_eq_none (h "pub struct " (by decide)),
        scan_eq_none (h "impl " (by decide))]

/-- A line that opens a block starts with a word and a blank. -/
theorem mark_headerStarts : ∀ target, ∀ start ∈ headerStarts target, mark start.toList = some ' '
  | .java => by decide
  | .rust => by decide

/-- A line in which no blank follows its first word opens no block. -/
theorem header?_eq_none_of_mark {text : List Char} (h : mark text ≠ some ' ') :
    header? target text = none :=
  header?_eq_none fun start hstart =>
    isPrefixOf?_eq_none_of_mark (mark_headerStarts target start hstart) h

/-- A header opens a block that runs up to the closing brace at its own depth. -/
theorem blocks_cons_header {text name : String} {kind : BlockKind}
    (h : header? target text.toList = some (kind, name)) (depth : Nat) (ls : List Line) :
    blocks target (⟨depth, text⟩ :: ls) =
      ⟨kind, name, ls.takeWhile (· ≠ (⟨depth, "\x7d"⟩ : Line))⟩ :: blocks target ls := by
  rw [blocks, h]

/-- The lines open the blocks `bs`, and each of these ends among the lines. -/
def HasBlocks (target : Target) (ls : List Line) (bs : List Block) : Prop :=
  ∀ rest, blocks target (ls ++ rest) = bs ++ blocks target rest

namespace HasBlocks

theorem blocks_eq {ls : List Line} {bs : List Block} (h : HasBlocks target ls bs) :
    blocks target ls = bs := by
  simpa [blocks] using h []

/-- Lines one after another have the blocks of both. -/
theorem append {ls ls' : List Line} {bs bs' : List Block} (h : HasBlocks target ls bs)
    (h' : HasBlocks target ls' bs') : HasBlocks target (ls ++ ls') (bs ++ bs') := by
  intro rest
  rw [List.append_assoc, h, h', List.append_assoc]

/-- Lines that open no block have none. -/
theorem of_not_header {ls : List Line} (h : ∀ l ∈ ls, header? target l.text.toList = none) :
    HasBlocks target ls [] := by
  intro rest
  induction ls with
  | nil => rfl
  | cons l ls ih =>
      rw [List.cons_append, blocks, h l List.mem_cons_self]
      exact ih fun l' hl => h l' (List.mem_cons_of_mem _ hl)

theorem blank : HasBlocks target [Line.blank] [] :=
  .of_not_header (List.forall_mem_singleton.mpr (header?_eq_none_of_mark (by decide)))

theorem flatMap {α : Type} {xs : List α} {ls : α → List Line} {bs : α → List Block}
    (h : ∀ x ∈ xs, HasBlocks target (ls x) (bs x)) :
    HasBlocks target (xs.flatMap ls) (xs.flatMap bs) := by
  induction xs with
  | nil => exact fun _ => rfl
  | cons x xs ih =>
      rw [List.flatMap_cons, List.flatMap_cons]
      exact (h x List.mem_cons_self).append (ih fun y hy => h y (List.mem_cons_of_mem _ hy))

/-- A block whose lines open no other block. -/
theorem block {depth : Nat} {text name : String} {kind : BlockKind} {body : List Line}
    (hheader : header? target text.toList = some (kind, name))
    (hbody : ∀ l ∈ body, l ≠ ⟨depth, "\x7d"⟩)
    (hinner : ∀ l ∈ body, header? target l.text.toList = none) :
    HasBlocks target (⟨depth, text⟩ :: body ++ [⟨depth, "\x7d"⟩]) [⟨kind, name, body⟩] := by
  intro rest
  have htake : (body ++ [(⟨depth, "\x7d"⟩ : Line)] ++ rest).takeWhile
      (· ≠ (⟨depth, "\x7d"⟩ : Line)) = body := by
    rw [List.append_assoc, List.takeWhile_append_of_pos (by simpa using hbody)]
    simp
  have hrest : blocks target (body ++ [⟨depth, "\x7d"⟩] ++ rest) = blocks target rest := by
    refine of_not_header (fun l hl => ?_) rest
    rcases List.mem_append.mp hl with hl | hl
    · exact hinner l hl
    · obtain rfl := List.mem_singleton.mp hl
      have hclosing : mark "\x7d".toList ≠ some ' ' := by decide
      exact header?_eq_none_of_mark hclosing
  rw [List.cons_append, List.cons_append, blocks_cons_header hheader, htake, hrest]
  rfl

end HasBlocks

/-- No two starts agree, so a line opens a block of one kind only. -/
theorem header?_eq_some {text : List Char} {kind : BlockKind} {start name : String} {stop : Char}
    {pattern : List (String × Char)} {names : List String}
    (hmem : (kind, (start, stop) :: pattern) ∈ headers target)
    (hscan : scan ((start, stop) :: pattern) text = some (name :: names)) :
    header? target text = some (kind, name) := by
  have hstart : start.toList <+: text := by
    cases hs : start.toList.isPrefixOf? text with
    | none => rw [scan_eq_none hs] at hscan; cases hscan
    | some rest => exact ⟨rest, List.append_eq_of_isPrefixOf?_eq_some hs⟩
  have hother : ∀ other : String, ¬ other.toList <+: start.toList ∧
      ¬ start.toList <+: other.toList → ∀ stop pattern,
      scan ((other, stop) :: pattern) text = none :=
    fun other h => scan_eq_none (isPrefixOf?_eq_none_of_start hstart h)
  cases target with
  | java =>
      simp only [headers, List.mem_cons, List.not_mem_nil, or_false, Prod.mk.injEq,
        List.cons.injEq] at hmem
      rcases hmem with ⟨rfl, ⟨rfl, rfl⟩, rfl⟩ | ⟨rfl, ⟨rfl, rfl⟩, rfl⟩ | ⟨rfl, ⟨rfl, rfl⟩, rfl⟩
      · simp [header?, headers, hscan]
      · simp [header?, headers, hscan, hother "abstract class " (by decide)]
      · simp [header?, headers, hscan, hother "abstract class " (by decide),
          hother "interface " (by decide)]
  | rust =>
      simp only [headers, List.mem_cons, List.not_mem_nil, or_false, Prod.mk.injEq,
        List.cons.injEq] at hmem
      rcases hmem with ⟨rfl, ⟨rfl, rfl⟩, rfl⟩ | ⟨rfl, ⟨rfl, rfl⟩, rfl⟩ | ⟨rfl, ⟨rfl, rfl⟩, rfl⟩ |
        ⟨rfl, ⟨rfl, rfl⟩, rfl⟩
      · simp [header?, headers, hscan]
      · simp [header?, headers, hscan, hother "pub enum " (by decide)]
      · simp [header?, headers, hscan, hother "pub enum " (by decide),
          hother "pub trait " (by decide)]
      · simp [header?, headers, hscan, hother "pub enum " (by decide),
          hother "pub trait " (by decide), hother "pub struct " (by decide)]

/-- A header is read back from its start, its name and the mark that ends it. -/
theorem header?_append {kind : BlockKind} {start name : String} {stop : Char}
    (hmem : (kind, [(start, stop)]) ∈ headers target) (hname : stop ∉ name.toList)
    (rest : List Char) :
    header? target (start.toList ++ (name.toList ++ stop :: rest)) = some (kind, name) :=
  header?_eq_some hmem (scan_append hname [] rest)

/-- The blocks of items that each stand after a blank line. -/
theorem hasBlocks_items {α β : Type} {xs : List α} {ys : List β} {f : α → List Line}
    {g : β → List Line} {bs : α → List Block} {bd : β → List Block}
    (hf : ∀ x ∈ xs, HasBlocks target (f x) (bs x))
    (hg : ∀ y ∈ ys, HasBlocks target (g y) (bd y)) :
    HasBlocks target ((xs.map f ++ ys.map g).flatMap (Line.blank :: ·))
      (xs.flatMap bs ++ ys.flatMap bd) := by
  rw [List.flatMap_append, List.flatMap_map, List.flatMap_map]
  exact (HasBlocks.flatMap fun x h => HasBlocks.blank.append (hf x h)).append
    (HasBlocks.flatMap fun y h => HasBlocks.blank.append (hg y h))

end Document

open Document

/-! ### The class hierarchy -/

namespace ClassHierarchy

variable {t : ResolvedTable}

/-- A detail of a class hierarchy opens no block. -/
theorem Detail.header? {text : List Char} (h : Detail text) : header? .java text = none := by
  refine header?_eq_none ?_
  simp only [headerStarts, List.forall_mem_cons]
  exact ⟨h.not_start (by decide) (by decide), h.not_start (by decide) (by decide),
    h.not_start (by decide) (by decide), by simp⟩

/-- The lines inside the class of a shape. -/
def nodeBody (s : ResolvedShape) : List Line :=
  constructor s.toResolvedData ++ Line.blank :: acceptMethod s ++ fieldLines s.toResolvedData

/-- The lines inside the class of a data type. -/
def dataBody (d : ResolvedData) : List Line :=
  constructor d ++ fieldLines d

/-- The body of a node holds no block of its own. -/
theorem header?_nodeBody {s : ResolvedShape} (hs : s.toResolvedData.Words) :
    ∀ l ∈ nodeBody s, header? .java l.text.toList = none := by
  simp only [nodeBody, acceptMethod, List.forall_mem_append, List.forall_mem_cons, and_assoc]
  refine ⟨fun l hl => (detail_constructor hs l hl).header?, ?_, ?_, ?_, header?_eq_none ?_, ?_,
    by simp, fun l hl => (detail_fieldLines l hl).header?⟩
  case refine_4 => simp [headerStarts, List.isPrefixOf?]
  all_goals exact header?_eq_none_of_mark (by decide)

theorem header?_dataBody {d : ResolvedData} (hd : d.Words) :
    ∀ l ∈ dataBody d, header? .java l.text.toList = none := by
  rw [dataBody, List.forall_mem_append]
  exact ⟨fun l hl => (detail_constructor hd l hl).header?,
    fun l hl => (detail_fieldLines l hl).header?⟩

theorem header?_static {name : String} (h : IsWord name.toList) (rest : List Char) :
    header? .java ("static class ".toList ++ (name.toList ++ ' ' :: rest)) =
      some (.nestedClass, name) :=
  header?_append (by decide) (h.notMem (by decide)) rest

/-- The lines inside a class stand deeper than the brace that closes it. -/
theorem ne_closing_constructor {d : ResolvedData} :
    ∀ l ∈ constructor d, l ≠ ⟨1, "\x7d"⟩ := by
  simp [constructor, or_imp, forall_and]

theorem ne_closing_fieldLines {d : ResolvedData} : ∀ l ∈ fieldLines d, l ≠ ⟨1, "\x7d"⟩ := by
  rw [fieldLines]
  split <;> simp [Line.blank]

/-- A node is one nested class. -/
theorem hasBlocks_node {s : ResolvedShape} (hs : s.toResolvedData.Words) :
    HasBlocks .java (node t s) [⟨.nestedClass, s.name, nodeBody s⟩] := by
  have hnode : node t s =
      ⟨1, "static class " ++ s.name ++ " extends " ++ t.base ++ " \x7b"⟩ :: nodeBody s ++
        [⟨1, "\x7d"⟩] := by
    simp [node, nodeBody]
  have hbody : ∀ l ∈ nodeBody s, l ≠ ⟨1, "\x7d"⟩ := by
    simp only [nodeBody, acceptMethod, List.forall_mem_append, List.forall_mem_cons, and_assoc]
    refine ⟨ne_closing_constructor, ?_, ?_, ?_, ?_, ?_, by simp, ne_closing_fieldLines⟩ <;>
      simp [Line.blank]
  rw [hnode]
  refine .block ?_ hbody (header?_nodeBody hs)
  simpa using header?_static hs.name ("extends " ++ t.base ++ " \x7b").toList

/-- A data type is one nested class. -/
theorem hasBlocks_dataType {d : ResolvedData} (hd : d.Words) :
    HasBlocks .java (dataType d) [⟨.nestedClass, d.name, dataBody d⟩] := by
  have hdata : dataType d =
      ⟨1, "static class " ++ d.name ++ " \x7b"⟩ :: dataBody d ++ [⟨1, "\x7d"⟩] := by
    simp [dataType, dataBody]
  have hbody : ∀ l ∈ dataBody d, l ≠ ⟨1, "\x7d"⟩ :=
    List.forall_mem_append.mpr ⟨ne_closing_constructor, ne_closing_fieldLines⟩
  rw [hdata]
  refine .block ?_ hbody (header?_dataBody hd)
  simpa using header?_static hd.name "\x7b".toList

/-- The visitor is one interface, with a line for each shape. -/
theorem hasBlocks_visitor (t : ResolvedTable) :
    HasBlocks .java (visitor t) [⟨.interface, "Visitor", t.shapes.map (declarationLine t)⟩] := by
  refine .block (by decide) ?_ ?_
  · simp
  · rw [List.forall_mem_map]
    refine fun s _ => header?_eq_none ?_
    simp [headerStarts, List.isPrefixOf?]

/-- **The blocks of a class hierarchy**: the base class, the visitor and the classes of the shapes
and the data types. -/
theorem blocks_form {cfg : Config} (htarget : cfg.target = .java) (ht : t.Words) :
    ∃ body, blocks .java (form cfg t) =
      ⟨.baseClass, t.base, body⟩ :: ⟨.interface, "Visitor", t.shapes.map (declarationLine t)⟩ ::
        (t.shapes.flatMap (fun s => [⟨.nestedClass, s.name, nodeBody s⟩]) ++
          t.dataTypes.flatMap fun d => [⟨.nestedClass, d.name, dataBody d⟩]) := by
  have hlast : HasBlocks .java (Line.blank :: dispatch ++ closing) [] := by
    refine .of_not_header ?_
    simp only [List.cons_append, List.forall_mem_cons, List.forall_mem_append]
    exact ⟨header?_eq_none_of_mark (by decide), fun l hl => (detail_dispatch l hl).header?,
      List.forall_mem_singleton.mpr (header?_eq_none_of_mark (by decide))⟩
  have hinner := ((hasBlocks_visitor t).append (hasBlocks_items
    (fun s hs => hasBlocks_node (t := t) (ht.shapes s hs))
    (fun d hd => hasBlocks_dataType (ht.dataTypes d hd)))).append hlast
  have hpreamble : HasBlocks .java (preamble cfg t) [] :=
    .of_not_header fun l hl => (detail_preamble l hl).header?
  have hopening : header? .java ("abstract class " ++ t.base ++ " \x7b").toList =
      some (.baseClass, t.base) := by
    have h : header? .java ("abstract class ".toList ++ (t.base.toList ++ ' ' :: ['\x7b'])) =
        some (.baseClass, t.base) :=
      header?_append (by decide) (ht.base.notMem (by decide)) _
    simpa using h
  -- The base class holds the other blocks, so its own lines are left open here.
  have hblocks := hinner.blocks_eq
  simp only [List.append_assoc, List.cons_append, List.nil_append, List.append_nil] at hblocks
  simp only [form_java htarget, opening, List.append_assoc, List.cons_append, List.nil_append]
  rw [hpreamble, List.nil_append, blocks_cons_header hopening, hblocks]
  exact ⟨_, rfl⟩

end ClassHierarchy

/-! ### The tagged union -/

namespace TaggedUnion

variable {t : ResolvedTable}

/-- A detail of a tagged union opens no block. -/
theorem Detail.header? {text : List Char} (h : Detail text) : header? .rust text = none := by
  refine header?_eq_none ?_
  simp only [headerStarts, List.forall_mem_cons]
  exact ⟨h.not_start (by decide) (by decide), h.not_start (by decide) (by decide),
    h.not_start (by decide) (by decide), h.not_start (by decide) (by decide), by simp⟩

theorem header?_struct {name : String} (h : IsWord name.toList) (rest : List Char) :
    header? .rust ("pub struct ".toList ++ (name.toList ++ ' ' :: rest)) = some (.record, name) :=
  header?_append (by decide) (h.notMem (by decide)) rest

theorem header?_impl {name : String} (h : IsWord name.toList) :
    header? .rust ("impl " ++ name ++ " \x7b").toList = some (.impl, name) := by
  have htext : ("impl " ++ name ++ " \x7b").toList =
      "impl ".toList ++ (name.toList ++ ' ' :: "\x7b".toList) := by simp
  rw [htext]
  exact header?_eq_some (by decide) (scan_append (h.notMem (by decide)) [("\x7b", ' ')] _)

/-- A conversion opens no block: its first line names two types. -/
theorem header?_conversion (ht : t.Words) {s : ResolvedShape} (hs : s ∈ t.shapes) :
    ∀ l ∈ conversion t s, header? .rust l.text.toList = none := by
  have himpl : header? .rust ("impl From<" ++ s.name ++ "> for " ++ t.base ++ " \x7b").toList =
      none := by
    have htext : ("impl From<" ++ s.name ++ "> for " ++ t.base ++ " \x7b").toList =
        "impl ".toList ++ (("From<" ++ s.name ++ ">").toList ++
          ' ' :: ("for " ++ t.base ++ " \x7b").toList) := by simp
    have hname : ' ' ∉ ("From<" ++ s.name ++ ">").toList := by
      simp [(ht.shapes s hs).name.notMem (c := ' ') (by decide)]
    -- The line starts as methods do, but no brace follows the first name.
    refine header?_eq_none_of_scan ?_
    rw [htext]
    simp only [headers, List.forall_mem_cons]
    refine ⟨scan_eq_none ?_ _ _, scan_eq_none ?_ _ _, scan_eq_none ?_ _ _, ?_, by simp⟩
    · simp [List.isPrefixOf?]
    · simp [List.isPrefixOf?]
    · simp [List.isPrefixOf?]
    · rw [scan_append hname, scan_eq_none (by simp [List.isPrefixOf?])]
      rfl
  have hvariant : mark (t.base ++ "::" ++ s.name ++ "(node)").toList = some ':' :=
    mark_of_start (mark_variant ht.base) (by simp)
  simp only [conversion, List.forall_mem_cons]
  exact ⟨himpl, (Detail.ofPhrase (p := "fn from(") (by simp) (by simp)).header?,
    header?_eq_none_of_mark (by rw [hvariant]; decide), header?_eq_none_of_mark (by decide),
    header?_eq_none_of_mark (by decide), by simp⟩

/-- The lines inside the methods of a shape. -/
def nodeMethodLines (t : ResolvedTable) (s : ResolvedShape) : List Line :=
  constructor ("Creates a new `" ++ s.name ++ "` node.") (s.fields.map NamedField.ofField) ++
    Line.blank :: acceptMethod t s ++ accessors (s.fields.map NamedField.ofField)

/-- The lines inside the methods of a data type. -/
def dataMethodLines (d : ResolvedData) : List Line :=
  constructor ("Creates a new `" ++ d.name ++ "`.") (d.fields.map NamedField.ofField) ++
    accessors (d.fields.map NamedField.ofField)

/-- The lines inside the methods of the base type. -/
def dispatchLines (t : ResolvedTable) : List Line :=
  [acceptOpening t.base, ⟨2, "match self \x7b"⟩] ++ t.shapes.map (armLine t) ++
    [⟨2, "\x7d"⟩, ⟨1, "\x7d"⟩]

/-- The comment on a type and its attribute open no block. -/
theorem hasBlocks_documented {doc : String} (hdoc : mark doc.toList ≠ some ' ')
    (derives : List String) : HasBlocks .rust (⟨0, doc⟩ :: deriveAttribute derives) [] :=
  .of_not_header (List.forall_mem_cons.mpr ⟨header?_eq_none_of_mark hdoc,
    fun l hl => (detail_deriveAttribute l hl).header?⟩)

/-- A tagged union opens with an enumeration, with a line for each shape. -/
theorem hasBlocks_opening (ht : t.Words) (cfg : Config) :
    HasBlocks .rust (opening cfg t) [⟨.enumeration, t.base, t.shapes.map variantLine⟩] := by
  have hdoc : HasBlocks .rust
      (⟨0, "/// Any `" ++ t.base ++ "` node."⟩ :: deriveAttribute cfg.derives) [] :=
    hasBlocks_documented (by simp [mark_cons, isIdentifierRest]) _
  have henum : header? .rust ("pub enum ".toList ++ (t.base.toList ++ ' ' :: ['\x7b'])) =
      some (.enumeration, t.base) :=
    header?_append (by decide) (ht.base.notMem (by decide)) _
  rw [opening_eq, enumLines]
  refine hdoc.append ((HasBlocks.block (by simpa using henum) ?_ ?_).append .blank)
  · simp [variantLine]
  · simp only [variantLine, List.forall_mem_map, String.toList_append, List.append_assoc]
    refine fun s hs => header?_eq_none_of_mark ?_
    rw [mark_append (ht.shapes s hs).name]
    simp [mark_cons, isIdentifierRest]

/-- The visitor is one trait, with a line for each shape. -/
theorem hasBlocks_visitorLines (ht : t.Words) :
    HasBlocks .rust (visitorLines t (written t.visitorParameter))
      [⟨.trait, visitorTrait t.base, t.shapes.map (declarationLine t)⟩] := by
  have hvisitor : visitorLines t (written t.visitorParameter) =
      [⟨0, "/// Visitor over every `" ++ t.base ++ "` shape."⟩] ++
        (⟨0, "pub trait " ++ visitorTrait t.base ++ "<R> \x7b"⟩ ::
          t.shapes.map (declarationLine t) ++ [⟨0, "\x7d"⟩]) := rfl
  have hname : '<' ∉ (visitorTrait t.base).toList := by
    simp [visitorTrait, ht.base.notMem (c := '<') (by decide)]
  have htrait : header? .rust
      ("pub trait ".toList ++ ((visitorTrait t.base).toList ++ '<' :: "R> \x7b".toList)) =
        some (.trait, visitorTrait t.base) :=
    header?_append (by decide) hname _
  rw [hvisitor]
  refine (HasBlocks.of_not_header (List.forall_mem_singleton.mpr
    (header?_eq_none_of_mark ?_))).append (.block (by simpa using htrait) ?_ ?_)
  · simp [mark_cons, isIdentifierRest]
  · simp [declarationLine]
  · rw [List.forall_mem_map]
    refine fun s _ => header?_eq_none ?_
    simp [declarationLine, headerStarts, List.isPrefixOf?]

theorem ne_closing_constructor {doc : String} {fields : List NamedField} :
    ∀ l ∈ constructor doc fields, l ≠ ⟨0, "\x7d"⟩ := by
  simp [constructor, or_imp, forall_and]

theorem ne_closing_accessors {fields : List NamedField} :
    ∀ l ∈ accessors fields, l ≠ ⟨0, "\x7d"⟩ := by
  simp only [accessors, List.forall_mem_flatMap, List.forall_mem_cons]
  intro f _
  refine ⟨?_, ?_, ?_, ?_, by simp⟩ <;> simp [Line.blank]

/-- A declaration has a block for its structure and one for its methods. -/
theorem hasBlocks_declaration {cfg : Config} {d : ResolvedData} (hd : d.Words) (doc : String)
    {methods : List Line} (hmethods : ∀ l ∈ methods, header? .rust l.text.toList = none)
    (hclosing : ∀ l ∈ methods, l ≠ ⟨0, "\x7d"⟩) :
    HasBlocks .rust
      (structLines cfg t doc d.name (d.fields.map NamedField.ofField) ++
        Line.blank :: (⟨0, "impl " ++ d.name ++ " \x7b"⟩ :: methods ++ [⟨0, "\x7d"⟩]))
      [⟨.record, d.name, d.fields.map (fieldLine t)⟩, ⟨.impl, d.name, methods⟩] := by
  have hdoc : HasBlocks .rust (⟨0, "/// " ++ doc⟩ :: deriveAttribute cfg.derives) [] :=
    hasBlocks_documented (by simp [mark_cons, isIdentifierRest]) _
  have hrecord : HasBlocks .rust
      (⟨0, "pub struct " ++ d.name ++ " \x7b"⟩ :: d.fields.map (fieldLine t) ++ [⟨0, "\x7d"⟩])
      [⟨.record, d.name, d.fields.map (fieldLine t)⟩] := by
    refine .block (by simpa using header?_struct hd.name ['\x7b']) ?_
      fun l hl => (detail_fieldLine hd.identifiers l hl).header?
    simp [fieldLine]
  have himpl : HasBlocks .rust
      (⟨0, "impl " ++ d.name ++ " \x7b"⟩ :: methods ++ [⟨0, "\x7d"⟩]) [⟨.impl, d.name, methods⟩] :=
    .block (header?_impl hd.name) hclosing hmethods
  rw [structLines_eq]
  exact (hdoc.append hrecord).append (HasBlocks.blank.append himpl)

/-- A shape is a structure and its methods; its conversion is no block of this kind. -/
theorem hasBlocks_nodeLines (ht : t.Words) (cfg : Config) {s : ResolvedShape}
    (hs : s ∈ t.shapes) :
    HasBlocks .rust (nodeLines cfg t s (s.fields.map NamedField.ofField))
      [⟨.record, s.name, s.fields.map (fieldLine t)⟩, ⟨.impl, s.name, nodeMethodLines t s⟩] := by
  have hw := ht.shapes s hs
  have hnode : nodeLines cfg t s (s.fields.map NamedField.ofField) =
      (structLines cfg t ("`" ++ s.name ++ "` node.") s.name (s.fields.map NamedField.ofField) ++
        Line.blank :: (⟨0, "impl " ++ s.name ++ " \x7b"⟩ :: nodeMethodLines t s ++
          [⟨0, "\x7d"⟩])) ++
      Line.blank :: conversion t s := by
    simp [nodeLines, nodeMethodLines]
  have hmethods : ∀ l ∈ nodeMethodLines t s, header? .rust l.text.toList = none := by
    simp only [nodeMethodLines, acceptMethod, List.forall_mem_append, List.forall_mem_cons,
      and_assoc]
    refine ⟨fun l hl => (detail_constructor hw.identifiers l hl).header?,
      header?_eq_none_of_mark (by decide), (detail_acceptOpening t.base).header?,
      header?_eq_none_of_mark ?_, header?_eq_none_of_mark (by decide), by simp,
      fun l hl => (detail_accessors l hl).header?⟩
    simp [mark_cons, isIdentifierRest]
  have hclosing : ∀ l ∈ nodeMethodLines t s, l ≠ ⟨0, "\x7d"⟩ := by
    simp only [nodeMethodLines, acceptMethod, List.forall_mem_append, List.forall_mem_cons,
      and_assoc]
    refine ⟨ne_closing_constructor, ?_, ?_, ?_, ?_, by simp, ne_closing_accessors⟩ <;>
      simp [Line.blank, acceptOpening]
  rw [hnode]
  exact (hasBlocks_declaration hw _ hmethods hclosing).append (.of_not_header
    (List.forall_mem_cons.mpr ⟨header?_eq_none_of_mark (by decide), header?_conversion ht hs⟩))

/-- A data type is a structure and its methods. -/
theorem hasBlocks_dataTypeLines (t : ResolvedTable) (cfg : Config) {d : ResolvedData}
    (hd : d.Words) :
    HasBlocks .rust (dataTypeLines cfg t d (d.fields.map NamedField.ofField))
      [⟨.record, d.name, d.fields.map (fieldLine t)⟩, ⟨.impl, d.name, dataMethodLines d⟩] := by
  have hdata : dataTypeLines cfg t d (d.fields.map NamedField.ofField) =
      structLines cfg t ("`" ++ d.name ++ "` data.") d.name (d.fields.map NamedField.ofField) ++
        Line.blank :: (⟨0, "impl " ++ d.name ++ " \x7b"⟩ :: dataMethodLines d ++
          [⟨0, "\x7d"⟩]) := by
    simp [dataTypeLines, dataMethodLines]
  rw [hdata]
  refine hasBlocks_declaration hd _ (List.forall_mem_append.mpr ⟨?_, ?_⟩)
    (List.forall_mem_append.mpr ⟨ne_closing_constructor, ne_closing_accessors⟩)
  · exact fun l hl => (detail_constructor hd.identifiers l hl).header?
  · exact fun l hl => (detail_accessors l hl).header?

/-- The dispatch is the methods of the base type. -/
theorem hasBlocks_dispatch (ht : t.Words) :
    HasBlocks .rust (dispatch t ++ closing) [⟨.impl, t.base, dispatchLines t⟩] := by
  have hdispatch : dispatch t ++ closing =
      ⟨0, "impl " ++ t.base ++ " \x7b"⟩ :: dispatchLines t ++ [⟨0, "\x7d"⟩] := by
    simp [dispatch, closing, dispatchLines, armLine]
  rw [hdispatch]
  refine .block (header?_impl ht.base) ?_ ?_
  · simp [dispatchLines, armLine, acceptOpening, or_imp, forall_and]
  · simp only [dispatchLines, List.forall_mem_append, List.forall_mem_cons, List.forall_mem_map,
      and_assoc]
    refine ⟨(detail_acceptOpening t.base).header?,
      (Detail.ofPhrase (p := "match self \x7b") (by simp) (by simp)).header?, by simp,
      fun s _ => header?_eq_none_of_mark (by simp [mark_armLine ht.base s]),
      header?_eq_none_of_mark (by decide), header?_eq_none_of_mark (by decide), by simp⟩

/-- **The blocks of a tagged union**: the enumeration, the visitor, the structures of the shapes and
the data types with their methods, and the methods of the base type. -/
theorem blocks_form {cfg : Config} (htarget : cfg.target = .rust) (ht : t.Words) :
    blocks .rust (form cfg t) =
      ⟨.enumeration, t.base, t.shapes.map variantLine⟩ ::
        ⟨.trait, visitorTrait t.base, t.shapes.map (declarationLine t)⟩ ::
        (t.shapes.flatMap (fun s => [⟨.record, s.name, s.fields.map (fieldLine t)⟩,
            ⟨.impl, s.name, nodeMethodLines t s⟩]) ++
          t.dataTypes.flatMap (fun d => [⟨.record, d.name, d.fields.map (fieldLine t)⟩,
            ⟨.impl, d.name, dataMethodLines d⟩]) ++
          [⟨.impl, t.base, dispatchLines t⟩]) := by
  have hpreamble : HasBlocks .rust (preamble cfg) [] :=
    .of_not_header fun l hl => (detail_preamble l hl).header?
  have hitems := hasBlocks_items
    (fun s hs => hasBlocks_nodeLines ht cfg (s := s) hs)
    (fun d hd => hasBlocks_dataTypeLines t cfg (ht.dataTypes d hd))
  have hform := (((hpreamble.append (hasBlocks_opening ht cfg)).append
    (hasBlocks_visitorLines ht)).append hitems).append
      (HasBlocks.blank.append (hasBlocks_dispatch ht))
  simpa [form_rust htarget] using hform.blocks_eq

end TaggedUnion

end AstForge
