import AstForge.Proofs.Document.Form
import AstForge.Proofs.Table.Parsed
import AstForge.Proofs.Text.Scan

/-!
# Documents — the rows of a document

A line of a document becomes a *row* of its text: its indentation and the line's own text.  A line
is *plain* if its text holds no line feed and starts with no space or tab; then it is one row, and
the row without its indentation is the line's text.

* `rows_renderLines`: the rows of a document of plain lines are read back from its text.
* `rowsOf_eq_of_renderLines_eq`: lines that are rendered to one text become the same rows, those of
  lines that are not plain included.
-/

namespace AstForge

open Text

/-! ### Plain lines -/

/-- Whether `c` may indent a line. -/
def isIndentChar (c : Char) : Bool :=
  c == ' ' || c == '\t'

/-- A row without its indentation. -/
def unindent (row : List Char) : List Char :=
  row.dropWhile isIndentChar

/-- The row that a line becomes. -/
def Line.row (indent : String) (l : Line) : List Char :=
  (List.replicate l.depth indent.toList).flatten ++ l.text.toList

/-- A line as it is read back: less its indentation and a final carriage return. -/
def Line.bare (l : Line) : List Char :=
  dropReturn l.text.toList

/-- The text holds no line feed and starts with no space or tab. -/
def Plain (cs : List Char) : Prop :=
  '\n' ∉ cs ∧ ∀ c ∈ cs.head?, isIndentChar c = false

/-- The text of lines is their rows, each with a line feed. -/
theorem toList_renderLines (indent : String) (ls : List Line) :
    (renderLines indent ls).toList = (ls.map (Line.row indent)).flatMap (· ++ ['\n']) := by
  rw [renderLines, String.toList_join, List.flatMap_map, List.flatMap_map]
  congr 1
  funext l
  simp [Line.render, Line.row, List.flatMap_replicate]

theorem plain_nil : Plain [] := by
  simp [Plain]

theorem plain_cons {c : Char} {cs : List Char} :
    Plain (c :: cs) ↔ '\n' ≠ c ∧ isIndentChar c = false ∧ '\n' ∉ cs := by
  simp only [Plain, List.mem_cons, not_or, List.head?_cons, Option.mem_def, Option.some.injEq,
    forall_eq']
  tauto

theorem plain_word_append {w cs : List Char} (hw : IsWord w) (hcs : Plain cs) :
    Plain (w ++ cs) := by
  refine ⟨fun hm => ?_, fun c hc => ?_⟩
  · rcases List.mem_append.mp hm with hm | hm
    · exact hw.newline_notMem hm
    · exact hcs.1 hm
  · cases w with
    | nil => exact hcs.2 c hc
    | cons d w =>
        obtain rfl := Option.some.inj hc
        refine forall_ascii (P := fun c => isIdentifierRest c → isIndentChar c = false)
          (by decide) (isIdentifierRest_ascii ?_) ?_ <;> exact hw d List.mem_cons_self

theorem plain_dropReturn {cs : List Char} (h : Plain cs) : Plain (dropReturn cs) := by
  obtain ⟨r, hr⟩ := dropReturn_isPrefix cs
  cases hd : dropReturn cs with
  | nil => exact plain_nil
  | cons c ds =>
      rw [← hr, hd, List.cons_append, plain_cons] at h
      exact plain_cons.mpr ⟨h.1, h.2.1, fun hm => h.2.2 (List.mem_append_left _ hm)⟩

/-- Removing the indentation from a plain line leaves its text. -/
theorem unindent_append {w cs : List Char} (hw : ∀ c ∈ w, isIndentChar c) (hcs : Plain cs) :
    unindent (w ++ cs) = cs := by
  rw [unindent, List.dropWhile_append_of_pos hw]
  cases cs with
  | nil => rfl
  | cons c cs => exact List.dropWhile_cons_of_neg (by simpa using (plain_cons.mp hcs).2.1)

/-! ### Reading the rows back -/

/-- The rows of a text, without their indentation. -/
def rows (doc : String) : List (List Char) :=
  (lines doc.toList).map unindent

variable {indent : String}

/-- A row is some indentation and the line's text. -/
theorem Line.row_spec (h : ∀ c ∈ indent.toList, isIndentChar c) (l : Line) :
    ∃ w, (∀ c ∈ w, isIndentChar c) ∧ l.row indent = w ++ l.text.toList := by
  refine ⟨_, fun c hc => ?_, rfl⟩
  obtain ⟨w, hw, hc⟩ := List.mem_flatten.mp hc
  exact h c (List.eq_of_mem_replicate hw ▸ hc)

theorem newline_notMem_row (h : ∀ c ∈ indent.toList, isIndentChar c) {l : Line}
    (hl : '\n' ∉ l.text.toList) : '\n' ∉ l.row indent := by
  obtain ⟨w, hw, hrow⟩ := l.row_spec h
  rw [hrow, List.mem_append, not_or]
  exact ⟨fun hm => absurd (hw _ hm) (by decide), hl⟩

/-- **The rows of a document of plain lines** are the texts of its lines. -/
theorem rows_renderLines (h : ∀ c ∈ indent.toList, isIndentChar c) {ls : List Line}
    (hls : ∀ l ∈ ls, Plain l.text.toList) :
    rows (renderLines indent ls) = ls.map Line.bare := by
  have hnl : ∀ row ∈ ls.map (Line.row indent), '\n' ∉ row := by
    intro row hrow
    obtain ⟨l, hl, rfl⟩ := List.mem_map.mp hrow
    exact newline_notMem_row h (hls l hl).1
  rw [rows, toList_renderLines, lines_terminated hnl, List.map_map, List.map_map]
  refine List.map_congr_left fun l hl => ?_
  obtain ⟨w, hw, hrow⟩ := l.row_spec h
  have hreturn : '\r' ∉ w := fun hm => absurd (hw _ hm) (by decide)
  rw [Function.comp_apply, Function.comp_apply, hrow, dropReturn_append hreturn,
    unindent_append hw (plain_dropReturn (hls l hl)), Line.bare]

/-! ### The rows of lines that may not be plain -/

/-- The texts of some lines. -/
def texts (ls : List Line) : List (List Char) :=
  ls.map fun l => l.text.toList

/-- The rows that some lines become, without their indentation; a line that holds line feeds becomes
several. -/
def rowsOf (indent : String) (ls : List Line) : List (List Char) :=
  ls.flatMap fun l => ((l.row indent).splitOn '\n').map unindent

@[simp] theorem texts_nil : texts [] = [] := rfl

@[simp] theorem texts_cons (l : Line) (ls : List Line) :
    texts (l :: ls) = l.text.toList :: texts ls :=
  rfl

@[simp] theorem texts_append (ls ls' : List Line) : texts (ls ++ ls') = texts ls ++ texts ls' :=
  List.map_append

@[simp] theorem texts_map {α : Type} (f : α → Line) (xs : List α) :
    texts (xs.map f) = xs.map fun x => (f x).text.toList :=
  List.map_map

@[simp] theorem texts_flatMap {α : Type} (f : α → List Line) (xs : List α) :
    texts (xs.flatMap f) = xs.flatMap fun x => texts (f x) :=
  List.map_flatMap

@[simp] theorem length_texts (ls : List Line) : (texts ls).length = ls.length :=
  List.length_map _

theorem rowsOf_append (indent : String) (ls ls' : List Line) :
    rowsOf indent (ls ++ ls') = rowsOf indent ls ++ rowsOf indent ls' :=
  List.flatMap_append

theorem rowsOf_flatMap {α : Type} (indent : String) (f : α → List Line) (xs : List α) :
    rowsOf indent (xs.flatMap f) = xs.flatMap fun x => rowsOf indent (f x) :=
  List.flatMap_assoc

/-- The rows of plain lines are their texts. -/
theorem rowsOf_eq_texts (h : ∀ c ∈ indent.toList, isIndentChar c) {ls : List Line}
    (hls : ∀ l ∈ ls, Plain l.text.toList) : rowsOf indent ls = texts ls := by
  rw [rowsOf, texts, List.map_eq_flatMap]
  refine List.flatMap_congr fun l hl => ?_
  obtain ⟨w, hw, hrow⟩ := l.row_spec h
  rw [List.splitOn_eq_singleton (newline_notMem_row h (hls l hl).1), hrow, List.map_singleton,
    unindent_append hw (hls l hl)]

/-- A plain line is one row. -/
theorem rowsOf_cons (h : ∀ c ∈ indent.toList, isIndentChar c) {l : Line} (hl : Plain l.text.toList)
    (ls : List Line) : rowsOf indent (l :: ls) = l.text.toList :: rowsOf indent ls := by
  rw [← List.singleton_append, rowsOf_append,
    rowsOf_eq_texts h (List.forall_mem_singleton.mpr hl)]
  rfl

/-- Texts that a line feed ends are cut at their own line feeds, and an empty piece follows. -/
theorem splitOn_terminated (ls : List (List Char)) :
    (ls.flatMap (· ++ ['\n'])).splitOn '\n' = ls.flatMap (·.splitOn '\n') ++ [[]] := by
  induction ls with
  | nil => rfl
  | cons l ls ih =>
      rw [List.flatMap_cons, List.flatMap_cons, List.append_assoc, List.singleton_append,
        List.splitOn_append_cons_self, ih, List.append_assoc]

/-- Lines that are rendered to one text become the same rows. -/
theorem rowsOf_eq_of_renderLines_eq {ls ls' : List Line}
    (h : renderLines indent ls = renderLines indent ls') :
    rowsOf indent ls = rowsOf indent ls' := by
  -- A line feed ends the last line too, so an empty row follows it.
  have hsplit : ∀ ls : List Line, rowsOf indent ls ++ [[]] =
      ((renderLines indent ls).toList.splitOn '\n').map unindent := by
    intro ls
    rw [toList_renderLines, splitOn_terminated, List.map_append, List.flatMap_map, List.map_flatMap]
    rfl
  refine List.append_cancel_right (?_ : rowsOf indent ls ++ [[]] = rowsOf indent ls' ++ [[]])
  rw [hsplit, hsplit, h]

/-! ### Plain documents -/

/-- A line of a comment starts with two slashes. -/
theorem exists_of_mem_commentLines {text : String} {l : Line} (h : l ∈ commentLines text) :
    ∃ rest, '\n' ∉ rest ∧ l.text.toList = '/' :: '/' :: rest := by
  obtain ⟨line, hline, rfl⟩ := List.mem_map.mp h
  have hnl := newline_notMem_of_mem_lines hline
  cases line with
  | nil => exact ⟨[], by simp, rfl⟩
  | cons c cs => exact ⟨' ' :: c :: cs, by simpa using hnl, by simp⟩

/-- The lines of a comment are plain. -/
theorem plain_of_mem_commentLines {text : String} {l : Line} (h : l ∈ commentLines text) :
    Plain l.text.toList := by
  obtain ⟨rest, hrest, htext⟩ := exists_of_mem_commentLines h
  simp [htext, plain_cons, isIndentChar, hrest]

/-- A line of joined sections is blank or stands in one of them. -/
theorem mem_joinSections {ss : List (List Line)} {l : Line} (h : l ∈ joinSections ss) :
    l = Line.blank ∨ ∃ ls ∈ ss, l ∈ ls := by
  rw [joinSections] at h
  split at h
  · cases h
  · rcases List.mem_append.mp h with h | h
    · exact (mem_of_mem_intercalate h).imp_left List.mem_singleton.mp
    · exact .inl (List.mem_singleton.mp h)

end AstForge
