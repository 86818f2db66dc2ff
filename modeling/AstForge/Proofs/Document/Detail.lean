import AstForge.Proofs.Document.Plain

/-!
# Documents — details

Most lines of a document are *details*: they neither open a type nor take part in dispatch.  Such a
line is known by its start alone, whatever names and types stand in it: by the first character
outside a word, or by one of a few phrases.  What holds of every detail holds of the preamble, of
constructors, of fields and of accessors.
-/

namespace AstForge

open Text

/-! ### The class hierarchy -/

namespace ClassHierarchy

/-- The text starts as a detail of a class hierarchy does. -/
inductive Detail : List Char → Prop
  | ofMark {cs : List Char} (h : mark cs ≠ some ' ') : Detail cs
  | ofPhrase {cs : List Char} {p : String} (h : p ∈ ["package ", "import ", "final ", "abstract <"])
      (hp : p.toList <+: cs) : Detail cs

/-- A detail does not start as another kind of line does, if no phrase does. -/
theorem Detail.not_start {cs : List Char} (h : Detail cs) {start : String}
    (hmark : mark start.toList = some ' ')
    (hphrases : ∀ p ∈ ["package ", "import ", "final ", "abstract <"],
      ¬ start.toList <+: p.toList ∧ ¬ p.toList <+: start.toList) :
    start.toList.isPrefixOf? cs = none := by
  cases h with
  | ofMark h => exact isPrefixOf?_eq_none_of_mark hmark h
  | ofPhrase h hp => exact isPrefixOf?_eq_none_of_start hp (hphrases _ h)

theorem detail_preamble {cfg : Config} {t : ResolvedTable} :
    ∀ l ∈ preamble cfg t, Detail l.text.toList := by
  intro l hl
  rcases mem_preamble hl with rfl | ⟨text, -, hl⟩ | ⟨name, -, rfl⟩ | ⟨name, -, rfl⟩
  · exact .ofMark (by decide)
  · obtain ⟨rest, -, htext⟩ := exists_of_mem_commentLines hl
    exact .ofMark (by simp [htext, mark_cons, isIdentifierRest])
  · exact .ofPhrase (p := "package ") (by simp) (by simp)
  · exact .ofPhrase (p := "import ") (by simp) (by simp)

theorem detail_constructor {d : ResolvedData} (hd : d.Words) :
    ∀ l ∈ constructor d, Detail l.text.toList := by
  simp only [constructor, List.cons_append, List.forall_mem_cons, List.forall_mem_append,
    List.forall_mem_map, String.toList_append, List.append_assoc]
  refine ⟨.ofMark ?_, fun f _ => .ofMark ?_, .ofMark (by decide), by simp⟩
  · rw [mark_append hd.name]
    simp [mark_cons, isIdentifierRest]
  · simp [mark_cons, isIdentifierRest]

theorem detail_fieldLines {d : ResolvedData} : ∀ l ∈ fieldLines d, Detail l.text.toList := by
  rw [fieldLines]
  split
  · simp
  · rw [List.forall_mem_cons, List.forall_mem_map]
    exact ⟨.ofMark (by decide), fun f _ => .ofPhrase (p := "final ") (by simp) (by simp)⟩

theorem detail_dispatch : ∀ l ∈ dispatch, Detail l.text.toList :=
  List.forall_mem_singleton.mpr (.ofPhrase (p := "abstract <") (by simp) (by simp))

end ClassHierarchy

/-! ### The tagged union -/

namespace TaggedUnion

/-- The text starts as a detail of a tagged union does. -/
inductive Detail : List Char → Prop
  | ofMark {cs : List Char} (h : mark cs ∉ [some ' ', some '.', some ':']) : Detail cs
  | ofField {w : List Char} (hw : IsWord w) (rest : List Char) : Detail (w ++ ':' :: ' ' :: rest)
  | ofPhrase {cs : List Char} {p : String}
      (h : p ∈ ["use ", "pub fn ", "Self \x7b", "match self \x7b", "fn from("])
      (hp : p.toList <+: cs) : Detail cs

/-- A detail does not start as another kind of line does, if no phrase does. -/
theorem Detail.not_start {cs : List Char} (h : Detail cs) {start : String}
    (hmark : mark start.toList = some ' ')
    (hphrases : ∀ p ∈ ["use ", "pub fn ", "Self \x7b", "match self \x7b", "fn from("],
      ¬ start.toList <+: p.toList ∧ ¬ p.toList <+: start.toList) :
    start.toList.isPrefixOf? cs = none := by
  cases h with
  | ofMark h =>
      simp only [List.mem_cons, not_or] at h
      exact isPrefixOf?_eq_none_of_mark hmark h.1
  | ofField hw rest =>
      refine isPrefixOf?_eq_none_of_mark hmark ?_
      rw [mark_append hw]
      simp [mark_cons, isIdentifierRest]
  | ofPhrase h hp => exact isPrefixOf?_eq_none_of_start hp (hphrases _ h)

/-- A line that starts with a name, raw or not, and a colon is a detail. -/
theorem Detail.written {name : String} (h : IsWord name.toList) (rest : List Char) :
    Detail ((written name).toList ++ ':' :: ' ' :: rest) := by
  rcases toList_written name with hw | hw
  · rw [hw]
    exact .ofField h rest
  · exact .ofMark (by simp [hw, mark_cons, isIdentifierRest])

theorem detail_preamble {cfg : Config} : ∀ l ∈ preamble cfg, Detail l.text.toList := by
  intro l hl
  rcases mem_preamble hl with rfl | ⟨text, -, hl⟩ | ⟨name, -, rfl⟩
  · exact .ofMark (by decide)
  · obtain ⟨rest, -, htext⟩ := exists_of_mem_commentLines hl
    exact .ofMark (by simp [htext, mark_cons, isIdentifierRest])
  · exact .ofPhrase (p := "use ") (by simp) (by simp)

theorem detail_deriveAttribute {derives : List String} :
    ∀ l ∈ deriveAttribute derives, Detail l.text.toList := by
  rw [deriveAttribute]
  split
  · simp
  · exact List.forall_mem_singleton.mpr (.ofMark (by simp [mark_cons, isIdentifierRest]))

variable {t : ResolvedTable} {fs : List ResolvedField}

/-- The line that declares the variant of a shape. -/
def variantLine (s : ResolvedShape) : Line :=
  ⟨1, s.name ++ "(" ++ s.name ++ "),"⟩

/-- The lines of the enumeration after its attribute. -/
def enumLines (t : ResolvedTable) : List Line :=
  ⟨0, "pub enum " ++ t.base ++ " \x7b"⟩ :: t.shapes.map variantLine ++ [⟨0, "\x7d"⟩]

/-- The opening is its comment and attribute, and then the enumeration. -/
theorem opening_eq (cfg : Config) (t : ResolvedTable) :
    opening cfg t = (⟨0, "/// Any `" ++ t.base ++ "` node."⟩ :: deriveAttribute cfg.derives) ++
      (enumLines t ++ [Line.blank]) := by
  simp [opening, enumLines, variantLine]

/-- The line that declares a field of a structure. -/
def fieldLine (t : ResolvedTable) (f : ResolvedField) : Line :=
  ⟨1, written f.identifier ++ ": " ++ storedType t.base f ++ ","⟩

/-- A structure is its comment and attribute, and then its fields in braces. -/
theorem structLines_eq (cfg : Config) (t : ResolvedTable) (doc name : String)
    (fs : List ResolvedField) :
    structLines cfg t doc name (fs.map NamedField.ofField) =
      (⟨0, "/// " ++ doc⟩ :: deriveAttribute cfg.derives) ++
        (⟨0, "pub struct " ++ name ++ " \x7b"⟩ :: fs.map (fieldLine t) ++ [⟨0, "\x7d"⟩]) := by
  simp [structLines, fieldLine, NamedField.ofField]

theorem detail_fieldLine (hfs : ∀ f ∈ fs, IsWord f.identifier.toList) :
    ∀ l ∈ fs.map (fieldLine t), Detail l.text.toList := by
  simp only [fieldLine, List.forall_mem_map, String.toList_append, List.append_assoc]
  exact fun f hf => .written (hfs f hf) _

theorem detail_constructor {doc : String} (hfs : ∀ f ∈ fs, IsWord f.identifier.toList) :
    ∀ l ∈ constructor doc (fs.map NamedField.ofField), Detail l.text.toList := by
  simp only [constructor, List.cons_append, List.nil_append, List.forall_mem_cons,
    List.forall_mem_append, List.forall_mem_map]
  refine ⟨.ofMark ?_, .ofPhrase (p := "pub fn ") (by simp) (by simp),
    .ofPhrase (p := "Self \x7b") (by simp) (by simp), fun f hf => ?_, .ofMark (by decide),
    .ofMark (by decide), by simp⟩
  · simp [mark_cons, isIdentifierRest]
  · rw [initializer]
    split <;> simp only [String.toList_append, List.append_assoc]
    · exact .written (hfs f hf) _
    · refine .ofMark ?_
      rw [NamedField.ofField]
      rcases toList_written f.identifier with hw | hw
      · rw [hw, mark_append (hfs f hf)]
        decide
      · simp [hw, mark_cons, isIdentifierRest]

/-- The lines of accessors are details. -/
theorem detail_accessors :
    ∀ l ∈ accessors (fs.map NamedField.ofField), Detail l.text.toList := by
  simp only [accessors, List.forall_mem_flatMap, List.forall_mem_map, List.forall_mem_cons]
  intro f _
  refine ⟨.ofMark (by decide), .ofPhrase (p := "pub fn ") (by simp) (by simp), .ofMark ?_,
    .ofMark (by decide), by simp⟩
  simp [mark_cons, isIdentifierRest]

theorem detail_acceptOpening (base : String) : Detail (acceptOpening base).text.toList :=
  .ofPhrase (p := "pub fn ") (by simp) (by simp [acceptOpening])

end TaggedUnion

end AstForge
