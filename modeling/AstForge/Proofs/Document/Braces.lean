import AstForge.Proofs.Document.Assembly
import AstForge.Proofs.Document.Blocks
import AstForge.Proofs.Text.Braces

/-!
# Documents — braces

Braces are the document's own when neither the types of the fields nor the settings hold any.  They
are *nested* (`Nested`): lines without braces, and blocks, of a line that ends with its only brace,
nested lines and a line that is a closing brace.

* `Nested.balanced`: nested lines have a balanced text.
* `ClassHierarchy.form_eq_items`, `TaggedUnion.form_eq_items`: a document is its preamble and its
  items, each of them one block (`Item`), with blank lines between.  A class hierarchy is one item,
  although its first and its last line come from different pieces.
* `Table.items_braced`: in the text of a document every item opens and closes at depth zero.
-/

namespace AstForge

open Text

/-! ### Nested lines -/

/-- The only brace of `cs` opens, and is the last character. -/
def Opens (cs : List Char) : Prop :=
  cs.getLast? = some '\x7b' ∧ NoBraces cs.dropLast

instance (cs : List Char) : Decidable (Opens cs) :=
  inferInstanceAs (Decidable (_ ∧ _))

/-- The lines hold no braces, or are put together from blocks and such lines. -/
inductive Nested : List Line → Prop
  | plain {ls : List Line} (h : ∀ l ∈ ls, NoBraces l.text.toList) : Nested ls
  | append {ls ls' : List Line} (h : Nested ls) (h' : Nested ls') : Nested (ls ++ ls')
  | block {depth : Nat} {text : String} {body : List Line} (htext : Opens text.toList)
      (hbody : Nested body) : Nested (⟨depth, text⟩ :: body ++ [⟨depth, "\x7d"⟩])

/-- The lines are one block: lines without braces, a line that opens the block with `head`, nested
lines, and the line that closes the block. -/
def Item (head : String) (ls : List Line) : Prop :=
  ∃ lead body, ls = lead ++ (⟨0, head ++ " \x7b"⟩ :: body ++ [⟨0, "\x7d"⟩]) ∧
    (∀ l ∈ lead, NoBraces l.text.toList) ∧ NoBraces head.toList ∧ Nested body

theorem opens_append {p s : String} (hp : NoBraces p.toList) (hs : Opens s.toList) :
    Opens (p ++ s).toList := by
  have hne : s.toList ≠ [] := by
    intro hnil
    rw [hnil] at hs
    exact absurd hs.1 (by simp)
  rw [String.toList_append]
  refine ⟨by rw [List.getLast?_append_of_ne_nil _ hne, hs.1], ?_⟩
  rw [List.dropLast_append_of_ne_nil hne]
  exact noBraces_append.mpr ⟨hp, hs.2⟩

theorem Opens.eq_append {cs : List Char} (h : Opens cs) : cs = cs.dropLast ++ ['\x7b'] :=
  (List.dropLast_append_getLast? _ h.1).symm

namespace Nested

theorem nil : Nested [] :=
  .plain (by simp)

theorem cons {l : Line} {ls : List Line} (hl : NoBraces l.text.toList) (h : Nested ls) :
    Nested (l :: ls) :=
  .append (.plain (List.forall_mem_singleton.mpr hl)) h

theorem blank_cons {ls : List Line} (h : Nested ls) : Nested (Line.blank :: ls) :=
  .cons noBraces_nil h

/-- A block of one line. -/
theorem single {depth : Nat} {text : String} {l : Line} (htext : Opens text.toList)
    (hl : NoBraces l.text.toList) : Nested [⟨depth, text⟩, l, ⟨depth, "\x7d"⟩] := by
  have hbody : Nested [l] := .plain (List.forall_mem_singleton.mpr hl)
  exact .block htext hbody

theorem flatMap {α : Type} {xs : List α} {f : α → List Line} (h : ∀ x ∈ xs, Nested (f x)) :
    Nested (xs.flatMap f) := by
  induction xs with
  | nil => exact nil
  | cons x xs ih =>
      obtain ⟨hx, hxs⟩ := List.forall_mem_cons.mp h
      exact .append hx (ih hxs)

end Nested

/-! ### The text of nested lines -/

section Text

variable {indent : String}

theorem noBraces_indentation (hindent : NoBraces indent.toList) (depth : Nat) :
    NoBraces (List.replicate depth indent.toList).flatten := by
  refine hindent.of_subset fun c hc => ?_
  obtain ⟨w, hw, hc⟩ := List.mem_flatten.mp hc
  exact List.eq_of_mem_replicate hw ▸ hc

/-- Lines without braces are rendered to a text without braces. -/
theorem noBraces_renderLines (hindent : NoBraces indent.toList) {ls : List Line}
    (h : ∀ l ∈ ls, NoBraces l.text.toList) : NoBraces (renderLines indent ls).toList := by
  induction ls with
  | nil => exact noBraces_nil
  | cons l ls ih =>
      obtain ⟨hl, hls⟩ := List.forall_mem_cons.mp h
      rw [toList_renderLines, List.map_cons, List.flatMap_cons, ← toList_renderLines,
        noBraces_append, noBraces_append, Line.row, noBraces_append]
      exact ⟨⟨⟨noBraces_indentation hindent _, hl⟩, by decide⟩, ih hls⟩

/-- The text of a block. -/
theorem toList_renderLines_block {depth : Nat} {text : String} {head : List Char}
    (htext : text.toList = head ++ ['\x7b']) (body : List Line) :
    (renderLines indent (⟨depth, text⟩ :: body ++ [⟨depth, "\x7d"⟩])).toList =
      (List.replicate depth indent.toList).flatten ++ head ++
        '\x7b' :: ('\n' :: (renderLines indent body).toList ++
          (List.replicate depth indent.toList).flatten ++ ['\x7d', '\n']) := by
  simp [toList_renderLines, Line.row, htext]

/-- What stands between the braces of a block is balanced if its lines are. -/
theorem balanced_inner (hindent : NoBraces indent.toList) {ls : List Line}
    (h : Balanced (renderLines indent ls).toList) (depth : Nat) :
    Balanced ('\n' :: (renderLines indent ls).toList ++
      (List.replicate depth indent.toList).flatten) := by
  have hnewline : Balanced ['\n'] := by decide
  exact (hnewline.append h).append (.of_noBraces (noBraces_indentation hindent depth))

/-- **Nested lines have a balanced text.** -/
theorem Nested.balanced (hindent : NoBraces indent.toList) {ls : List Line} (h : Nested ls) :
    Balanced (renderLines indent ls).toList := by
  induction h with
  | plain h => exact .of_noBraces (noBraces_renderLines hindent h)
  | append _ _ ih ih' =>
      rw [renderLines_append, String.toList_append]
      exact ih.append ih'
  | @block depth text body htext _ ih =>
      rw [toList_renderLines_block htext.eq_append]
      exact (balanced_inner hindent ih depth).block
        (noBraces_append.mpr ⟨noBraces_indentation hindent depth, htext.2⟩) (by decide)

/-- **An item is one block**, however its lines are indented. -/
theorem Item.braced (hindent : NoBraces indent.toList) {head : String} {ls : List Line}
    (h : Item head ls) : Braced (head ++ " ").toList (renderLines indent ls).toList := by
  obtain ⟨lead, body, rfl, hlead, hhead, hbody⟩ := h
  have htext : (head ++ " \x7b").toList = (head ++ " ").toList ++ ['\x7b'] := by
    simp
  have hlines : (renderLines indent (lead ++ (⟨0, head ++ " \x7b"⟩ :: body ++
      [⟨0, "\x7d"⟩]))).toList = (renderLines indent lead).toList ++ (head ++ " ").toList ++
        '\x7b' :: ('\n' :: (renderLines indent body).toList ++ [] ++ ['\x7d', '\n']) := by
    rw [renderLines_append, String.toList_append, toList_renderLines_block htext]
    exact (List.append_assoc _ _ _).symm
  have hspace : NoBraces (head ++ " ").toList := by
    rw [String.toList_append, noBraces_append]
    exact ⟨hhead, by decide⟩
  rw [hlines]
  exact .of_balanced (noBraces_renderLines hindent hlead) hspace
    (balanced_inner hindent (hbody.balanced hindent) 0)

end Text

/-! ### Pieces -/

/-- A comment has no brace that its text does not have. -/
theorem noBraces_commentLines {text : String} (h : NoBraces text.toList) :
    ∀ l ∈ commentLines text, NoBraces l.text.toList := by
  intro l hl
  obtain ⟨line, hline, rfl⟩ := List.mem_map.mp hl
  have hnone := h.of_subset fun c hc => mem_of_mem_lines hline hc
  cases line with
  | nil => decide
  | cons c cs => simpa using hnone

namespace ClassHierarchy

variable {t : ResolvedTable}

/-- The preamble has no brace if the settings have none. -/
theorem noBraces_preamble {cfg : Config} (hheader : ∀ text ∈ cfg.header, NoBraces text.toList)
    (hpackage : ∀ name ∈ cfg.package, NoBraces name.toList)
    (himports : ∀ name ∈ cfg.imports, NoBraces name.toList) :
    ∀ l ∈ preamble cfg t, NoBraces l.text.toList := by
  intro l hl
  rcases mem_preamble hl with rfl | ⟨text, htext, hl⟩ | ⟨name, hname, rfl⟩ | ⟨name, hname, rfl⟩
  · exact noBraces_nil
  · exact noBraces_commentLines (hheader text htext) l hl
  · simp [hpackage name hname]
  · have hnone : NoBraces name.toList := by
      rcases mem_imports hname with ⟨type, htype, rfl⟩ | hname
      · have hutil : ∀ type ∈ utilTypes, NoBraces type.toList := by decide
        simp [hutil type htype]
      · exact himports name hname
    simp [hnone]

theorem nested_constructor {d : ResolvedData} (hd : d.Words)
    (htypes : ∀ f ∈ d.fields, NoBraces f.type.toList) : Nested (constructor d) := by
  have hparameters : NoBraces (", ".intercalate
      (d.fields.map fun f => f.type ++ " " ++ f.identifier)).toList := by
    refine noBraces_intercalate fun p hp => ?_
    obtain ⟨f, hf, rfl⟩ := List.mem_map.mp hp
    simp [htypes f hf, (hd.identifiers f hf).noBraces]
  refine .block (opens_append ?_ (by decide)) (.plain ?_)
  · simp [-String.toList_intercalate, hparameters, hd.name.noBraces]
  · rw [List.forall_mem_map]
    intro f hf
    simp [(hd.identifiers f hf).noBraces]

theorem nested_fieldLines {d : ResolvedData} (hd : d.Words)
    (htypes : ∀ f ∈ d.fields, NoBraces f.type.toList) : Nested (fieldLines d) := by
  rw [fieldLines]
  split
  · exact .nil
  · refine .blank_cons (.plain ?_)
    rw [List.forall_mem_map]
    intro f hf
    simp [htypes f hf, (hd.identifiers f hf).noBraces]

theorem nested_acceptMethod {s : ResolvedShape} (h : IsWord s.visitMethod.toList) :
    Nested (acceptMethod s) := by
  have hcall : NoBraces ("return visitor." ++ s.visitMethod ++ "(this);").toList := by
    simp [h.noBraces]
  exact .cons (by decide) (.single (by decide) hcall)

/-- A node is nested if its types have no brace. -/
theorem nested_node (ht : t.Words) {s : ResolvedShape} (hs : s ∈ t.shapes)
    (htypes : ∀ f ∈ s.fields, NoBraces f.type.toList) : Nested (node t s) := by
  have hw := ht.shapes s hs
  have hopen : Opens ("static class " ++ s.name ++ " extends " ++ t.base ++ " \x7b").toList := by
    refine opens_append ?_ (by decide)
    simp [hw.name.noBraces, ht.base.noBraces]
  exact .block hopen (.append (.append (nested_constructor hw htypes)
    (.blank_cons (nested_acceptMethod (ht.visitMethods s hs)))) (nested_fieldLines hw htypes))

theorem nested_dataType {d : ResolvedData} (hd : d.Words)
    (htypes : ∀ f ∈ d.fields, NoBraces f.type.toList) : Nested (dataType d) := by
  have hopen : Opens ("static class " ++ d.name ++ " \x7b").toList := by
    refine opens_append ?_ (by decide)
    simp [hd.name.noBraces]
  exact .block hopen (.append (nested_constructor hd htypes) (nested_fieldLines hd htypes))

theorem nested_visitor (ht : t.Words) : Nested (visitor t) := by
  refine .block (by decide) (.plain ?_)
  rw [List.forall_mem_map]
  intro s hs
  simp [(ht.shapes s hs).name.noBraces,
    (ht.visitMethods s hs).noBraces, ht.parameter.noBraces]

/-- The lines of the base class. -/
def classLines (t : ResolvedTable) : List Line :=
  opening t ++ visitor t ++
    (t.shapes.map (node t) ++ t.dataTypes.map dataType).flatMap (Line.blank :: ·) ++
    Line.blank :: dispatch ++ closing

/-- **A class hierarchy is one item**: everything but the preamble stands in the base class. -/
theorem item_classLines (ht : t.Words)
    (hshapes : ∀ s ∈ t.shapes, ∀ f ∈ s.fields, NoBraces f.type.toList)
    (hdata : ∀ d ∈ t.dataTypes, ∀ f ∈ d.fields, NoBraces f.type.toList) :
    Item ("abstract class " ++ t.base) (classLines t) := by
  refine ⟨[], visitor t ++ (t.shapes.map (node t) ++ t.dataTypes.map dataType).flatMap
    (Line.blank :: ·) ++ Line.blank :: dispatch, by simp [classLines, opening, closing], by simp,
    by simp [ht.base.noBraces], ?_⟩
  refine .append (.append (nested_visitor ht) (.flatMap ?_)) (.blank_cons (.plain (by decide)))
  rw [List.forall_mem_append, List.forall_mem_map, List.forall_mem_map]
  exact ⟨fun s hs => .blank_cons (nested_node ht hs (hshapes s hs)),
    fun d hd => .blank_cons (nested_dataType (ht.dataTypes d hd) (hdata d hd))⟩

end ClassHierarchy

namespace TaggedUnion

variable {cfg : Config} {t : ResolvedTable} {fs : List ResolvedField}

theorem noBraces_written {name : String} (h : IsWord name.toList) :
    NoBraces (written name).toList :=
  ⟨notMem_written h (by decide) (by decide), notMem_written h (by decide) (by decide)⟩

theorem noBraces_preamble (hheader : ∀ text ∈ cfg.header, NoBraces text.toList)
    (himports : ∀ name ∈ cfg.imports, NoBraces name.toList) :
    ∀ l ∈ preamble cfg, NoBraces l.text.toList := by
  intro l hl
  rcases mem_preamble hl with rfl | ⟨text, htext, hl⟩ | ⟨name, hname, rfl⟩
  · exact noBraces_nil
  · exact noBraces_commentLines (hheader text htext) l hl
  · simp [himports name hname]

/-- The comment on a type and its attribute hold no braces. -/
theorem noBraces_documented (hderives : ∀ d ∈ cfg.derives, NoBraces d.toList) {doc : String}
    (hdoc : NoBraces doc.toList) :
    ∀ l ∈ (⟨0, doc⟩ : Line) :: deriveAttribute cfg.derives, NoBraces l.text.toList := by
  rw [List.forall_mem_cons, deriveAttribute]
  refine ⟨hdoc, ?_⟩
  split
  · simp
  · simp [-String.toList_intercalate, noBraces_intercalate hderives]

theorem noBraces_visitMethodSnake {s : ResolvedShape} (h : IsWord s.visitMethod.toList) :
    NoBraces s.visitMethodSnake.toList :=
  (isWord_toSnakeCase h).noBraces

/-- The enumeration with its comment and its attribute. -/
def enumItem (cfg : Config) (t : ResolvedTable) : List Line :=
  (⟨0, "/// Any `" ++ t.base ++ "` node."⟩ :: deriveAttribute cfg.derives) ++ enumLines t

theorem item_enum (hderives : ∀ d ∈ cfg.derives, NoBraces d.toList) (ht : t.Words) :
    Item ("pub enum " ++ t.base) (enumItem cfg t) := by
  refine ⟨_, _, rfl, noBraces_documented hderives ?_, ?_, .plain ?_⟩
  · simp [ht.base.noBraces]
  · simp [ht.base.noBraces]
  · rw [List.forall_mem_map]
    intro s hs
    simp [variantLine, (ht.shapes s hs).name.noBraces]

theorem item_visitor (ht : t.Words) :
    Item ("pub trait " ++ visitorTrait t.base ++ "<R>")
      (visitorLines t (written t.visitorParameter)) := by
  have hhead : "pub trait " ++ visitorTrait t.base ++ "<R>" ++ " \x7b" =
      "pub trait " ++ visitorTrait t.base ++ "<R> \x7b" := by
    rw [String.append_assoc]
    rfl
  refine ⟨[⟨0, "/// Visitor over every `" ++ t.base ++ "` shape."⟩],
    t.shapes.map (declarationLine t), ?_, ?_, ?_, .plain ?_⟩
  · rw [hhead]
    simp [visitorLines, declarationLine]
  · simp [ht.base.noBraces]
  · simp [visitorTrait, ht.base.noBraces]
  · rw [List.forall_mem_map]
    intro s hs
    simp [declarationLine, noBraces_visitMethodSnake (ht.visitMethods s hs),
      noBraces_written ht.parameter, (ht.shapes s hs).name.noBraces]

/-- The structure of a declaration is an item. -/
theorem item_struct (hderives : ∀ d ∈ cfg.derives, NoBraces d.toList) (hbase : IsWord t.base.toList)
    {d : ResolvedData} (hd : d.Words) (htypes : ∀ f ∈ d.fields, NoBraces f.type.toList)
    {doc : String} (hdoc : NoBraces doc.toList) :
    Item ("pub struct " ++ d.name)
      (structLines cfg t doc d.name (d.fields.map NamedField.ofField)) := by
  rw [structLines_eq]
  refine ⟨_, _, rfl, noBraces_documented hderives ?_, ?_, .plain ?_⟩
  · simp [hdoc]
  · simp [hd.name.noBraces]
  · rw [List.forall_mem_map]
    intro f hf
    have hstored : NoBraces (storedType t.base f).toList := by
      rw [storedType]
      split
      · simp [hbase.noBraces]
      · exact htypes f hf
    simp [fieldLine, noBraces_written (hd.identifiers f hf), hstored]

/-- A constructor is a block in a block, after its comment. -/
theorem constructor_eq (doc : String) (fields : List NamedField) :
    constructor doc fields = ⟨1, "/// " ++ doc⟩ ::
      (⟨1, "pub fn new(" ++ ", ".intercalate (fields.map fun f => f.name ++ ": " ++ f.field.type) ++
          ") -> Self \x7b"⟩ ::
        (⟨2, "Self \x7b"⟩ :: fields.map (fun f => ⟨3, initializer f⟩) ++ [⟨2, "\x7d"⟩]) ++
        [⟨1, "\x7d"⟩]) := by
  simp [constructor]

theorem nested_constructor {doc : String} (hdoc : NoBraces doc.toList)
    (hfs : ∀ f ∈ fs, IsWord f.identifier.toList) (htypes : ∀ f ∈ fs, NoBraces f.type.toList) :
    Nested (constructor doc (fs.map NamedField.ofField)) := by
  have hparameters : NoBraces (", ".intercalate
      ((fs.map NamedField.ofField).map fun f => f.name ++ ": " ++ f.field.type)).toList := by
    refine noBraces_intercalate fun p hp => ?_
    obtain ⟨f, hf, rfl⟩ := List.mem_map.mp hp
    obtain ⟨f, hmem, rfl⟩ := List.mem_map.mp hf
    simp [NamedField.ofField, noBraces_written (hfs f hmem), htypes f hmem]
  have hinitializers : Nested ((fs.map NamedField.ofField).map fun f => ⟨3, initializer f⟩) := by
    refine .plain ?_
    rw [List.forall_mem_map, List.forall_mem_map]
    intro f hf
    rw [initializer]
    split <;> simp [NamedField.ofField, noBraces_written (hfs f hf)]
  rw [constructor_eq]
  refine .cons (by simp [hdoc]) (.block (opens_append ?_ (by decide))
    (.block (by decide) hinitializers))
  simp [-String.toList_intercalate, -List.map_map, hparameters]

theorem nested_accessors (hfs : ∀ f ∈ fs, IsWord f.identifier.toList)
    (htypes : ∀ f ∈ fs, NoBraces f.type.toList) :
    Nested (accessors (fs.map NamedField.ofField)) := by
  refine .flatMap ?_
  rw [List.forall_mem_map]
  intro f hf
  have hname := noBraces_written (hfs f hf)
  refine .blank_cons (.single (opens_append ?_ (by decide)) ?_)
  · simp [NamedField.ofField, hname, htypes f hf]
  · simp [NamedField.ofField, hname]

theorem opens_acceptOpening {base : String} (hbase : IsWord base.toList) :
    Opens (acceptOpening base).text.toList :=
  opens_append (by simp [visitorTrait, hbase.noBraces]) (by decide)

theorem nested_acceptMethod (hbase : IsWord t.base.toList) {s : ResolvedShape}
    (hvisit : IsWord s.visitMethod.toList) : Nested (acceptMethod t s) :=
  .single (opens_acceptOpening hbase) (by simp [noBraces_visitMethodSnake hvisit])

theorem item_conversion (ht : t.Words) {s : ResolvedShape} (hs : s ∈ t.shapes) :
    Item ("impl From<" ++ s.name ++ "> for " ++ t.base) (conversion t s) := by
  have hname := (ht.shapes s hs).name.noBraces
  refine ⟨[], [_, _, _], rfl, by simp, ?_, .single (opens_append ?_ (by decide)) ?_⟩
  · simp [hname, ht.base.noBraces]
  · simp [hname]
  · simp [hname, ht.base.noBraces]

theorem nested_dispatchLines (ht : t.Words) : Nested (dispatchLines t) := by
  have harms : Nested (t.shapes.map (armLine t)) := by
    refine .plain ?_
    rw [List.forall_mem_map]
    intro s hs
    simp [armLine, ht.base.noBraces, (ht.shapes s hs).name.noBraces,
      noBraces_visitMethodSnake (ht.visitMethods s hs)]
  have hlines : dispatchLines t = acceptOpening t.base ::
      (⟨2, "match self \x7b"⟩ :: t.shapes.map (armLine t) ++ [⟨2, "\x7d"⟩]) ++ [⟨1, "\x7d"⟩] := by
    simp [dispatchLines]
  rw [hlines]
  exact .block (opens_acceptOpening ht.base) (.block (by decide) harms)

/-- Methods are one item. -/
theorem item_impl {name : String} (hname : IsWord name.toList) {methods : List Line}
    (hmethods : Nested methods) :
    Item ("impl " ++ name) (⟨0, "impl " ++ name ++ " \x7b"⟩ :: methods ++ [⟨0, "\x7d"⟩]) :=
  ⟨[], methods, rfl, by simp, by simp [hname.noBraces], hmethods⟩

theorem nested_nodeMethodLines (ht : t.Words) {s : ResolvedShape} (hs : s ∈ t.shapes)
    (htypes : ∀ f ∈ s.fields, NoBraces f.type.toList) : Nested (nodeMethodLines t s) := by
  have hw := ht.shapes s hs
  refine .append (.append (nested_constructor ?_ hw.identifiers htypes)
    (.blank_cons (nested_acceptMethod ht.base (ht.visitMethods s hs))))
    (nested_accessors hw.identifiers htypes)
  simp [hw.name.noBraces]

theorem nested_dataMethodLines {d : ResolvedData} (hd : d.Words)
    (htypes : ∀ f ∈ d.fields, NoBraces f.type.toList) : Nested (dataMethodLines d) :=
  .append (nested_constructor (by simp [hd.name.noBraces]) hd.identifiers htypes)
    (nested_accessors hd.identifiers htypes)

/-- The items of a shape: its structure, its methods and its conversion. -/
def nodeItems (cfg : Config) (t : ResolvedTable) (s : ResolvedShape) : List (List Line) :=
  [structLines cfg t ("`" ++ s.name ++ "` node.") s.name (s.fields.map NamedField.ofField),
   ⟨0, "impl " ++ s.name ++ " \x7b"⟩ :: nodeMethodLines t s ++ [⟨0, "\x7d"⟩],
   conversion t s]

/-- The items of a data type: its structure and its methods. -/
def dataItems (cfg : Config) (t : ResolvedTable) (d : ResolvedData) : List (List Line) :=
  [structLines cfg t ("`" ++ d.name ++ "` data.") d.name (d.fields.map NamedField.ofField),
   ⟨0, "impl " ++ d.name ++ " \x7b"⟩ :: dataMethodLines d ++ [⟨0, "\x7d"⟩]]

/-- A shape makes three items: its structure, its methods and its conversion. -/
theorem items_node (hderives : ∀ d ∈ cfg.derives, NoBraces d.toList) (ht : t.Words)
    {s : ResolvedShape} (hs : s ∈ t.shapes) (htypes : ∀ f ∈ s.fields, NoBraces f.type.toList) :
    List.Forall₂ Item
      ["pub struct " ++ s.name, "impl " ++ s.name, "impl From<" ++ s.name ++ "> for " ++ t.base]
      (nodeItems cfg t s) := by
  have hw := ht.shapes s hs
  have hdoc : NoBraces ("`" ++ s.name ++ "` node.").toList := by
    simp [hw.name.noBraces]
  exact .cons (item_struct hderives ht.base hw htypes hdoc)
    (.cons (item_impl hw.name (nested_nodeMethodLines ht hs htypes))
      (.cons (item_conversion ht hs) .nil))

/-- A data type makes two items: its structure and its methods. -/
theorem items_dataType (hderives : ∀ d ∈ cfg.derives, NoBraces d.toList)
    (hbase : IsWord t.base.toList) {d : ResolvedData} (hd : d.Words)
    (htypes : ∀ f ∈ d.fields, NoBraces f.type.toList) :
    List.Forall₂ Item ["pub struct " ++ d.name, "impl " ++ d.name] (dataItems cfg t d) := by
  have hdoc : NoBraces ("`" ++ d.name ++ "` data.").toList := by
    simp [hd.name.noBraces]
  exact .cons (item_struct hderives hbase hd htypes hdoc)
    (.cons (item_impl hd.name (nested_dataMethodLines hd htypes)) .nil)

/-- The items of a tagged union.  The last has its end from another piece than its beginning. -/
def items (cfg : Config) (t : ResolvedTable) : List (List Line) :=
  enumItem cfg t :: visitorLines t (written t.visitorParameter) ::
    (t.shapes.flatMap (nodeItems cfg t) ++ t.dataTypes.flatMap (dataItems cfg t) ++
      [⟨0, "impl " ++ t.base ++ " \x7b"⟩ :: dispatchLines t ++ closing])

end TaggedUnion

/-! ### Items -/

/-- A class hierarchy is its preamble and one item. -/
theorem ClassHierarchy.form_eq_items {cfg : Config} (h : cfg.target = .java) (t : ResolvedTable) :
    Document.form cfg t = preamble cfg t ++ [Line.blank].intercalate [classLines t] := by
  rw [Document.form_java h, List.intercalate_singleton, classLines]
  simp only [List.append_assoc]

/-- A tagged union is its preamble and its items, with a blank line between two of them. -/
theorem TaggedUnion.form_eq_items {cfg : Config} (h : cfg.target = .rust) (t : ResolvedTable) :
    Document.form cfg t = preamble cfg ++ [Line.blank].intercalate (items cfg t) := by
  have hnode : ∀ s, Line.blank :: nodeLines cfg t s (s.fields.map NamedField.ofField) =
      (nodeItems cfg t s).flatMap (Line.blank :: ·) := by
    intro s
    simp [nodeItems, nodeLines, nodeMethodLines]
  have hdata : ∀ d, Line.blank :: dataTypeLines cfg t d (d.fields.map NamedField.ofField) =
      (dataItems cfg t d).flatMap (Line.blank :: ·) := by
    intro d
    simp [dataItems, dataTypeLines, dataMethodLines]
  have hdispatch : dispatch t = ⟨0, "impl " ++ t.base ++ " \x7b"⟩ :: dispatchLines t := by
    simp [dispatch, dispatchLines, armLine]
  rw [Document.form_rust h, opening_eq, items, intercalate_singleton_cons, enumItem, hdispatch]
  simp [List.flatMap_map, List.flatMap_assoc, hnode, hdata]

/-- What the items of a document start with, after comments and attributes. -/
def Table.itemHeads (t : Table) : Target → List String
  | .java => ["abstract class " ++ t.base]
  | .rust =>
    ("pub enum " ++ t.base) :: ("pub trait " ++ TaggedUnion.visitorTrait t.base ++ "<R>") ::
      (t.shapes.toList.flatMap (fun s =>
          ["pub struct " ++ s.name, "impl " ++ s.name,
            "impl From<" ++ s.name ++ "> for " ++ t.base]) ++
        t.dataTypes.toList.flatMap (fun d => ["pub struct " ++ d.name, "impl " ++ d.name]) ++
        ["impl " ++ t.base])

/-- No field of the table has a brace in its type. -/
def Table.TypesUnbraced (t : Table) : Prop :=
  ∀ s ∈ t.declaredShapes, ∀ f ∈ s.fields, NoBraces f.type.toList

instance (t : Table) : Decidable t.TypesUnbraced :=
  inferInstanceAs (Decidable (∀ s ∈ t.declaredShapes, _))

/-- No setting holds a brace. -/
structure Config.Unbraced (cfg : Config) : Prop where
  indent : NoBraces cfg.indent.toList
  package : ∀ name ∈ cfg.package, NoBraces name.toList
  imports : ∀ name ∈ cfg.imports, NoBraces name.toList
  header : ∀ text ∈ cfg.header, NoBraces text.toList
  derives : ∀ d ∈ cfg.derives, NoBraces d.toList

/-- The types of a resolved declaration have no brace if those of the table have none. -/
theorem Table.TypesUnbraced.resolve {t : Table} (h : t.TypesUnbraced) {s : Shape}
    (hs : s ∈ t.declaredShapes) : ∀ f ∈ (s.resolveData t.base).fields, NoBraces f.type.toList :=
  List.forall_mem_map.mpr (h s hs)

/-- The item of a class hierarchy has its head. -/
theorem ClassHierarchy.items_spec {t : Table} (ht : t.WellFormed) (htypes : t.TypesUnbraced) :
    List.Forall₂ Item (t.itemHeads .java) [classLines t.resolve] := by
  refine .cons (item_classLines ht.words_resolve ?_ ?_) .nil
  · exact List.forall_mem_map.mpr fun s hs => htypes.resolve (List.mem_append_left _ hs)
  · exact List.forall_mem_map.mpr fun s hs => htypes.resolve (List.mem_append_right _ hs)

/-- The items of a tagged union have their heads, in order. -/
theorem TaggedUnion.items_spec {cfg : Config} (hcfg : cfg.Unbraced) {t : Table} (ht : t.WellFormed)
    (htypes : t.TypesUnbraced) :
    List.Forall₂ Item (t.itemHeads .rust) (items cfg t.resolve) := by
  have hwords := ht.words_resolve
  have hshapes : List.Forall₂ (fun s r => s ∈ t.shapes.toList ∧ r = s.resolve t.base)
      t.shapes.toList t.resolve.shapes :=
    List.forall₂_map_right_iff.mpr (List.forall₂_same.mpr fun s hs => ⟨hs, rfl⟩)
  have hdataTypes : List.Forall₂ (fun s r => s ∈ t.dataTypes.toList ∧ r = s.resolveData t.base)
      t.dataTypes.toList t.resolve.dataTypes :=
    List.forall₂_map_right_iff.mpr (List.forall₂_same.mpr fun s hs => ⟨hs, rfl⟩)
  have hnodes : List.Forall₂ Item
      (t.shapes.toList.flatMap fun s => ["pub struct " ++ s.name, "impl " ++ s.name,
        "impl From<" ++ s.name ++ "> for " ++ t.base])
      (t.resolve.shapes.flatMap (nodeItems cfg t.resolve)) := by
    refine List.rel_flatMap hshapes ?_
    rintro s r ⟨hs, rfl⟩
    exact items_node (s := s.resolve t.base) hcfg.derives hwords (List.mem_map_of_mem hs)
      (htypes.resolve (List.mem_append_left _ hs))
  have hdata : List.Forall₂ Item
      (t.dataTypes.toList.flatMap fun d => ["pub struct " ++ d.name, "impl " ++ d.name])
      (t.resolve.dataTypes.flatMap (dataItems cfg t.resolve)) := by
    refine List.rel_flatMap hdataTypes ?_
    rintro s r ⟨hs, rfl⟩
    exact items_dataType (d := s.resolveData t.base) hcfg.derives hwords.base
      (ht.words_resolveData (List.mem_append_right _ hs))
      (htypes.resolve (List.mem_append_right _ hs))
  have hdispatch : Item ("impl " ++ t.base) (⟨0, "impl " ++ t.base ++ " \x7b"⟩ ::
      dispatchLines t.resolve ++ closing) :=
    item_impl hwords.base (nested_dispatchLines hwords)
  have hrest := List.rel_append (List.rel_append hnodes hdata) (.cons hdispatch .nil)
  exact .cons (item_enum (t := t.resolve) hcfg.derives hwords)
    (.cons (item_visitor (t := t.resolve) hwords) hrest)

/-! ### Documents -/

/-- Blank lines between items are rendered as line feeds between their texts. -/
theorem toList_renderLines_intercalate (indent : String) (items : List (List Line)) :
    (renderLines indent ([Line.blank].intercalate items)).toList =
      ['\n'].intercalate (items.map fun ls => (renderLines indent ls).toList) := by
  cases items with
  | nil => rfl
  | cons ls items =>
      rw [List.map_cons, intercalate_singleton_cons, intercalate_singleton_cons,
        renderLines_append, renderLines_flatMap_blank]
      simp [String.toList_join, List.flatMap_map]

/-- The text of items after lines without braces. -/
theorem braced_of_items {indent : String} (hindent : NoBraces indent.toList) {lead : List Line}
    (hlead : ∀ l ∈ lead, NoBraces l.text.toList) {heads : List String} {items : List (List Line)}
    (hitems : List.Forall₂ Item heads items) :
    ∃ preamble texts,
      (renderLines indent (lead ++ [Line.blank].intercalate items)).toList =
        preamble ++ ['\n'].intercalate texts ∧
      NoBraces preamble ∧
      List.Forall₂ (fun head text => Braced (head ++ " ").toList text) heads texts := by
  refine ⟨(renderLines indent lead).toList,
    items.map fun ls => (renderLines indent ls).toList, ?_, noBraces_renderLines hindent hlead, ?_⟩
  · rw [renderLines_append, String.toList_append, toList_renderLines_intercalate]
  · rw [List.forall₂_map_right_iff]
    exact hitems.imp fun _ _ h => h.braced hindent

/-- A document is balanced after its preamble and any number of its items. -/
theorem balanced_take {preamble : List Char} (hpreamble : NoBraces preamble)
    {texts : List (List Char)} (htexts : ∀ text ∈ texts, Balanced text) (k : Nat) :
    Balanced (preamble ++ ['\n'].intercalate (texts.take k)) :=
  (Balanced.of_noBraces hpreamble).append
    (.intercalate (fun text h => htexts text (List.mem_of_mem_take h)) (by decide))

/-- **The braces of a document.**  They are balanced.  After a preamble without braces come the
items, with blank lines between.  Each item is one block, inside which some brace is always open,
and no brace is open between two items.  All of a class hierarchy is one item, the base class. -/
theorem Table.items_braced {base : String} {texts : List String} {t : Table} {cfg : Config}
    {doc : String} (ht : Table.ofDeclarations base texts = .ok t) (htypes : t.TypesUnbraced)
    (hcfg : cfg.Unbraced) (hdoc : t.generate cfg = .ok doc) :
    Balanced doc.toList ∧ ∃ preamble items,
      doc.toList = preamble ++ ['\n'].intercalate items ∧ NoBraces preamble ∧
      List.Forall₂ (fun head item => Braced (head ++ " ").toList item)
        (t.itemHeads cfg.target) items ∧
      ∀ k, Balanced (preamble ++ ['\n'].intercalate (items.take k)) := by
  have hwf := Table.wellFormed_of_ofDeclarations ht
  obtain ⟨-, rfl⟩ := Table.generate_eq_ok_iff.mp hdoc
  have hitems : ∃ lead items, Document.form cfg t.resolve = lead ++ [Line.blank].intercalate items ∧
      (∀ l ∈ lead, NoBraces l.text.toList) ∧ List.Forall₂ Item (t.itemHeads cfg.target) items := by
    cases htarget : cfg.target with
    | java =>
        exact ⟨_, _, ClassHierarchy.form_eq_items htarget t.resolve,
          ClassHierarchy.noBraces_preamble hcfg.header hcfg.package hcfg.imports,
          ClassHierarchy.items_spec hwf htypes⟩
    | rust =>
        exact ⟨_, _, TaggedUnion.form_eq_items htarget t.resolve,
          TaggedUnion.noBraces_preamble hcfg.header hcfg.imports,
          TaggedUnion.items_spec hcfg hwf htypes⟩
  obtain ⟨lead, items, hform, hlead, hitems⟩ := hitems
  obtain ⟨preamble, blocks, htext, hpreamble, hblocks⟩ :=
    braced_of_items hcfg.indent hlead hitems
  have hbalanced : ∀ block ∈ blocks, Balanced block := by
    intro block hblock
    obtain ⟨head, -, h⟩ := exists_of_mem_forall₂ hblocks hblock
    exact h.balanced
  have htake := balanced_take hpreamble hbalanced
  rw [hform, htext]
  refine ⟨?_, preamble, blocks, rfl, hpreamble, hblocks, htake⟩
  simpa using htake blocks.length

/-- A table with a shape that has fields, one that has none, and a data type. -/
def callTable : Table :=
  (((Table.empty "Expr").addShape ⟨"Call", [⟨"Expr", "callee"⟩, ⟨"List<Expr>", "type"⟩]⟩).addShape
    ⟨"Nil", []⟩).addDataType ⟨"Span", [⟨"Token", "start"⟩]⟩

/-- Settings without braces, with a header of two lines. -/
def unbracedConfig (target : Target) : Config :=
  ⟨target, "\t", some "org.trees", ["org.trees.Token"], some "Trees.\nDo not edit.", ["Debug"]⟩

theorem items_braced_callTable :
    Table.ofDeclarations "Expr" ["Call : Expr callee, List<Expr> type", "Nil :",
        "struct Span : Token start"] = .ok callTable ∧
      callTable.TypesUnbraced ∧ (∀ target, (unbracedConfig target).Unbraced) ∧
      ∃ classes union, callTable.generate (unbracedConfig .java) = .ok classes ∧
        callTable.generate (unbracedConfig .rust) = .ok union ∧
        Balanced classes.toList ∧ Balanced union.toList ∧
        (∃ preamble item, classes.toList = preamble ++ item ∧ NoBraces preamble ∧
          Braced "abstract class Expr ".toList item) ∧
        ∃ preamble items, union.toList = preamble ++ ['\n'].intercalate items ∧
          items.length = 11 ∧ ∀ k, Balanced (preamble ++ ['\n'].intercalate (items.take k)) := by
  have ht : Table.ofDeclarations "Expr" ["Call : Expr callee, List<Expr> type", "Nil :",
      "struct Span : Token start"] = .ok callTable := rfl
  have htypes : callTable.TypesUnbraced := by decide
  have hcfg : ∀ target, (unbracedConfig target).Unbraced := by
    intro target
    cases target with
    | java => exact ⟨by decide, by decide, by decide, by decide, by decide⟩
    | rust => exact ⟨by decide, by decide, by decide, by decide, by decide⟩
  have hcheck : ∀ target, Document.check (unbracedConfig target) callTable.resolve = .ok () := by
    intro target
    cases target with
    | java => decide +kernel
    | rust => decide +kernel
  have hclasses := Table.generate_eq_ok_iff.mpr ⟨hcheck .java, rfl⟩
  have hunion := Table.generate_eq_ok_iff.mpr ⟨hcheck .rust, rfl⟩
  obtain ⟨hbalanced, preamble, items, htext, hpreamble, hitems, -⟩ :=
    Table.items_braced ht htypes (hcfg .java) hclasses
  obtain ⟨hbalanced', preamble', items', htext', -, hitems', htake⟩ :=
    Table.items_braced ht htypes (hcfg .rust) hunion
  refine ⟨ht, htypes, hcfg, _, _, hclasses, hunion, hbalanced, hbalanced', ?_,
    preamble', items', htext', hitems'.length_eq.symm, htake⟩
  cases hitems with
  | cons hitem hnil =>
      cases hnil
      exact ⟨preamble, _, by rw [htext, List.intercalate_singleton], hpreamble, hitem⟩

end AstForge
