import AstForge.Proofs.Document.Assembly
import AstForge.Proofs.Document.Rows

/-!
# Documents — the header and its comment

The header of a document may be any text, and each of its lines becomes a comment.  The header is
cut into lines at line feeds.  A target has its own line ends (`Target.lines`): in a class hierarchy
a carriage return ends a line too, so a line of the header may become several lines of the document,
and only the first of them gets the comment mark.

* `ResolvedTable.header_within_comment`: the header stays in its comment in every tagged union, and
  in a class hierarchy exactly when what follows a carriage return within a line is a comment by
  itself.
* `stray_header_escapes`: a header that does not.
-/

namespace AstForge

open Text

/-! ### The lines of a target -/

/-- A text with a line feed for each line end, where a carriage return ends a line as well, alone or
together with a line feed after it. -/
def Text.unifyEnds : List Char → List Char
  | [] => []
  | '\r' :: '\n' :: cs => '\n' :: unifyEnds cs
  | '\r' :: cs => '\n' :: unifyEnds cs
  | c :: cs => c :: unifyEnds cs

/-- The lines of a text as the target tells them apart. -/
def Target.lines : Target → List Char → List (List Char)
  | .java, cs => Text.lines (unifyEnds cs)
  | .rust, cs => Text.lines cs

namespace Text

/-- The line feed for a carriage return, and any other character for itself. -/
def unifyEnd (c : Char) : Char :=
  if c = '\r' then '\n' else c

/-- A carriage return without a line feed after it ends a line by itself. -/
theorem unifyEnds_return {cs : List Char} (h : cs.head? ≠ some '\n') :
    unifyEnds ('\r' :: cs) = '\n' :: unifyEnds cs := by
  rw [unifyEnds]
  rintro cs' rfl
  exact h rfl

theorem unifyEnds_cons {c : Char} (h : c ≠ '\r') (cs : List Char) :
    unifyEnds (c :: cs) = c :: unifyEnds cs := by
  rw [unifyEnds]
  · rintro cs' hc
    exact absurd hc h
  · exact h

/-- The line feed that ends a line ends it together with a carriage return before it; every other
carriage return of the line is a line end by itself. -/
theorem unifyEnds_append_newline {l : List Char} (h : '\n' ∉ l) (cs : List Char) :
    unifyEnds (l ++ '\n' :: cs) = (dropReturn l).map unifyEnd ++ '\n' :: unifyEnds cs := by
  induction l with
  | nil => exact unifyEnds_cons (by decide) cs
  | cons c l ih =>
      rw [List.mem_cons, not_or] at h
      replace ih := ih h.2
      by_cases hc : c = '\r'
      · subst hc
        cases l with
        | nil => rfl
        | cons d l =>
            have hd : (d :: l ++ '\n' :: cs).head? ≠ some '\n' := fun hd =>
              h.2 (Option.some.inj hd ▸ List.mem_cons_self)
            rw [List.cons_append, unifyEnds_return hd, ih, dropReturn_cons_cons]
            rfl
      · have hreturn : '\r' ∉ [c] := fun hm => hc (List.mem_singleton.mp hm).symm
        have hdrop : dropReturn (c :: l) = c :: dropReturn l := dropReturn_append hreturn l
        rw [List.cons_append, unifyEnds_cons hc, ih, hdrop, List.map_cons, unifyEnd, if_neg hc]
        rfl

theorem map_unifyEnd {cs : List Char} (h : '\r' ∉ cs) : cs.map unifyEnd = cs := by
  refine (List.map_congr_left fun c hc => ?_).trans (List.map_id cs)
  exact if_neg fun hreturn : c = '\r' => h (hreturn ▸ hc)

end Text

namespace Target

/-- The lines that the target finds in a row of a document, which a line feed ends. -/
def linesOfRow (target : Target) (row : List Char) : List (List Char) :=
  target.lines (row ++ ['\n'])

theorem lines_nil (target : Target) : target.lines [] = [] := by
  cases target <;> rfl

section

variable {row : List Char} (hrow : '\n' ∉ row)
include hrow

theorem lines_java_append_newline (cs : List Char) :
    java.lines (row ++ '\n' :: cs) =
      (((dropReturn row).map unifyEnd).splitOn '\n').map dropReturn ++ java.lines cs := by
  rw [lines, unifyEnds_append_newline hrow, lines_append_cons_newline]
  rfl

/-- A row of a class hierarchy is cut at its carriage returns. -/
theorem linesOfRow_java :
    java.linesOfRow row = (((dropReturn row).map unifyEnd).splitOn '\n').map dropReturn := by
  rw [linesOfRow, lines_java_append_newline hrow, lines_nil, List.append_nil]

/-- A row of a tagged union is one line. -/
theorem linesOfRow_rust : rust.linesOfRow row = [dropReturn row] :=
  Text.lines_append_newline hrow []

/-- **A row.**  The line feed at the end of a row ends a line in either target, so the row and what
follows it are read apart. -/
theorem lines_append_newline (target : Target) (cs : List Char) :
    target.lines (row ++ '\n' :: cs) = target.linesOfRow row ++ target.lines cs := by
  cases target with
  | java => rw [lines_java_append_newline hrow, linesOfRow_java hrow]
  | rust => rw [linesOfRow_rust hrow]; exact Text.lines_append_newline hrow cs

/-- The first line of a row starts as the row does. -/
theorem linesOfRow_append (target : Target) {w : List Char} (hnewline : '\n' ∉ w)
    (hreturn : '\r' ∉ w) :
    target.linesOfRow (w ++ row) = (target.linesOfRow row).modifyHead (w ++ ·) := by
  have hwrow : '\n' ∉ w ++ row := List.not_mem_append hnewline hrow
  cases target with
  | java =>
      rw [linesOfRow_java hwrow, linesOfRow_java hrow, dropReturn_append hreturn, List.map_append,
        map_unifyEnd hreturn, splitOn_append_of_notMem hnewline]
      obtain ⟨first, others, hparts⟩ := List.exists_cons_of_ne_nil
        (List.splitOn_ne_nil '\n' ((dropReturn row).map unifyEnd))
      rw [hparts, List.modifyHead_cons, List.map_cons, dropReturn_append hreturn]
      rfl
  | rust =>
      rw [linesOfRow_rust hwrow, linesOfRow_rust hrow, dropReturn_append hreturn]
      rfl

theorem linesOfRow_ne_nil (target : Target) : target.linesOfRow row ≠ [] := by
  cases target with
  | java =>
      rw [linesOfRow_java hrow]
      simp
  | rust => simp [linesOfRow_rust hrow]

/-- A row without a carriage return, or with one at its end only, is one line. -/
theorem linesOfRow_eq_singleton (target : Target) (hreturn : '\r' ∉ dropReturn row) :
    target.linesOfRow row = [dropReturn row] := by
  have hnewline : '\n' ∉ dropReturn row := fun hm => hrow ((dropReturn_isPrefix row).subset hm)
  cases target with
  | java =>
      rw [linesOfRow_java hrow, map_unifyEnd hreturn, List.splitOn_eq_singleton hnewline,
        List.map_singleton, dropReturn_of_notMem hreturn]
  | rust => exact linesOfRow_rust hrow

end

/-- The lines of rows that each end with a line feed, and of what follows them. -/
theorem lines_terminated_append (target : Target) {rows : List (List Char)}
    (h : ∀ row ∈ rows, '\n' ∉ row) (cs : List Char) :
    target.lines (rows.flatMap (· ++ ['\n']) ++ cs) =
      rows.flatMap target.linesOfRow ++ target.lines cs := by
  induction rows with
  | nil => rfl
  | cons row rows ih =>
      obtain ⟨hrow, hrows⟩ := List.forall_mem_cons.mp h
      rw [List.flatMap_cons, List.append_assoc, List.append_assoc, List.singleton_append,
        target.lines_append_newline hrow, ih hrows, List.flatMap_cons, List.append_assoc]

end Target

/-! ### Comment lines -/

/-- The line is a comment: two slashes, and then nothing or a text that starts with a space. -/
def IsComment (line : List Char) : Prop :=
  line = ['/', '/'] ∨ ['/', '/', ' '] <+: line

instance (line : List Char) : Decidable (IsComment line) :=
  inferInstanceAs (Decidable (_ ∨ _))

/-- The row of the document that a line of the header becomes. -/
def commentRow (line : List Char) : List Char :=
  if line.isEmpty then ['/', '/'] else ['/', '/', ' '] ++ line

/-- A comment has a row for each line of its text. -/
theorem rows_commentLines (indent header : String) :
    (commentLines header).map (Line.row indent) = (lines header.toList).map commentRow := by
  rw [commentLines, List.map_map]
  refine List.map_congr_left fun line _ => ?_
  cases line with
  | nil => rfl
  | cons c line => simp [Line.row, commentRow]

theorem notMem_commentRow {c : Char} (hc : c ∉ ['/', '/', ' ']) {line : List Char} (h : c ∉ line) :
    c ∉ commentRow line := by
  rw [commentRow]
  split
  · exact fun hm => hc (List.mem_append_left [' '] hm)
  · exact List.not_mem_append hc h

/-- Only the first line of a row gets the comment mark. -/
theorem forall_isComment_commentRow_iff (target : Target) {line : List Char} (h : '\n' ∉ line) :
    (∀ part ∈ target.linesOfRow (commentRow line), IsComment part) ↔
      ∀ part ∈ (target.linesOfRow line).tail, IsComment part := by
  cases line with
  | nil =>
      have hslashes : target.linesOfRow (commentRow []) = [['/', '/']] :=
        Target.linesOfRow_eq_singleton (by decide) target (by decide)
      have hempty : target.linesOfRow [] = [[]] :=
        Target.linesOfRow_eq_singleton h target (by decide)
      rw [hslashes, hempty, List.forall_mem_singleton, List.tail_cons]
      exact ⟨fun _ => by simp, fun _ => .inl rfl⟩
  | cons c line =>
      obtain ⟨first, others, hparts⟩ :=
        List.exists_cons_of_ne_nil (Target.linesOfRow_ne_nil h target)
      have hrow : target.linesOfRow (commentRow (c :: line)) =
          (['/', '/', ' '] ++ first) :: others := by
        rw [commentRow, List.isEmpty_cons, if_neg Bool.false_ne_true,
          Target.linesOfRow_append h target (by decide) (by decide), hparts, List.modifyHead_cons]
      rw [hrow, hparts, List.forall_mem_cons, List.tail_cons, and_iff_right]
      exact .inr (List.prefix_append _ first)

/-! ### The header of a document -/

/-- The first section comes first, and a blank line follows it unless it is empty. -/
theorem joinSections_cons (first : List Line) (others : List (List Line)) :
    ∃ rest, joinSections (first :: others) = first ++ rest ∧
      (first ≠ [] → rest.head? = some Line.blank) := by
  simp only [joinSections, intercalate_singleton_cons]
  split
  · next hempty =>
      have hfirst : first = [] := (List.append_eq_nil_iff.mp (List.isEmpty_iff.mp hempty)).1
      exact ⟨[], by rw [hfirst, List.append_nil], fun hne => absurd hfirst hne⟩
  · refine ⟨_, List.append_assoc _ _ _, fun _ => ?_⟩
    cases others with
    | nil => rfl
    | cons second others => rfl

/-- The preamble starts with the header, and a blank line follows it unless it is empty. -/
theorem Document.preamble_of_header {cfg : Config} {header : String} (h : cfg.header = some header)
    (t : ResolvedTable) :
    ∃ rest, Document.preamble cfg t = commentLines header ++ rest ∧
      (commentLines header ≠ [] → rest.head? = some Line.blank) := by
  rw [Document.preamble]
  cases cfg.target with
  | java =>
      rw [ClassHierarchy.preamble, h]
      exact joinSections_cons _ _
  | rust =>
      rw [TaggedUnion.preamble, h]
      exact joinSections_cons _ _

/-- A document starts with its header.  A blank line follows, unless the header is empty. -/
theorem ResolvedTable.exists_header_append {t : ResolvedTable} {cfg : Config} {doc header : String}
    (hdoc : t.generate cfg = .ok doc) (hheader : cfg.header = some header) :
    ∃ rest, doc = renderLines cfg.indent (commentLines header) ++ rest ∧
      (commentLines header ≠ [] → ∃ more, rest = "\n" ++ more) := by
  rw [t.generate_eq_map_check, map_eq_ok_iff] at hdoc
  obtain ⟨-, -, rfl⟩ := hdoc
  obtain ⟨rest, hpreamble, hblank⟩ := Document.preamble_of_header hheader t
  obtain ⟨body, hbody⟩ : Document.preamble cfg t <+: Document.form cfg t := by
    simp only [Document.form, List.append_assoc]
    exact List.prefix_append _ _
  refine ⟨renderLines cfg.indent (rest ++ body), ?_, fun hne => ?_⟩
  · rw [← hbody, hpreamble, List.append_assoc, renderLines_append]
  · obtain ⟨more, rfl⟩ := List.head?_eq_some_iff.mp (hblank hne)
    exact ⟨_, renderLines_blank_cons cfg.indent (more ++ body)⟩

section

variable (target : Target) (indent header : String)

/-- The lines of the header are read apart from those of the rest. -/
theorem lines_header_append (rest : String) :
    target.lines (renderLines indent (commentLines header) ++ rest).toList =
      (lines header.toList).flatMap (fun line => target.linesOfRow (commentRow line)) ++
        target.lines rest.toList := by
  have hnewline : ∀ row ∈ (lines header.toList).map commentRow, '\n' ∉ row :=
    List.forall_mem_map.mpr fun _ hline =>
      notMem_commentRow (by decide) (newline_notMem_of_mem_lines hline)
  rw [String.toList_append, toList_renderLines, rows_commentLines,
    target.lines_terminated_append hnewline, List.flatMap_map]

theorem lines_header :
    target.lines (renderLines indent (commentLines header)).toList =
      (lines header.toList).flatMap fun line => target.linesOfRow (commentRow line) := by
  have h := lines_header_append target indent header ""
  rwa [String.append_empty, String.toList_empty, target.lines_nil, List.append_nil] at h

/-- **When the header is all comments.** -/
theorem forall_isComment_lines_header_iff :
    (∀ line ∈ target.lines (renderLines indent (commentLines header)).toList, IsComment line) ↔
      ∀ line ∈ lines header.toList, ∀ part ∈ (target.linesOfRow line).tail, IsComment part := by
  rw [lines_header, List.forall_mem_flatMap]
  exact forall₂_congr fun line hline =>
    forall_isComment_commentRow_iff target (newline_notMem_of_mem_lines hline)

end

/-- **The header stays in its comment.**  A document starts with the text of its header, which a
blank line ends, and the target reads the lines of that text apart from those of the rest.  In a
tagged union each of them is a comment.  In a class hierarchy each of them is one exactly when, in
every line of the header, what a carriage return sets off is a comment by itself; so carriage
returns at the ends of lines do no harm. -/
theorem ResolvedTable.header_within_comment {t : ResolvedTable} {cfg : Config}
    {doc header : String} (hdoc : t.generate cfg = .ok doc) (hheader : cfg.header = some header) :
    ∃ top rest, doc = top ++ rest ∧ top = renderLines cfg.indent (commentLines header) ∧
      (top ≠ "" → ∃ more, rest = "\n" ++ more) ∧
      cfg.target.lines doc.toList = cfg.target.lines top.toList ++ cfg.target.lines rest.toList ∧
      (cfg.target = .rust → ∀ line ∈ cfg.target.lines top.toList, IsComment line) ∧
      ((∀ line ∈ cfg.target.lines top.toList, IsComment line) ↔
        ∀ line ∈ lines header.toList, ∀ part ∈ (cfg.target.linesOfRow line).tail, IsComment part) ∧
      ((∀ line ∈ lines header.toList, '\r' ∉ dropReturn line) →
        ∀ line ∈ cfg.target.lines top.toList, IsComment line) := by
  obtain ⟨rest, rfl, hblank⟩ := ResolvedTable.exists_header_append hdoc hheader
  have hiff := forall_isComment_lines_header_iff cfg.target cfg.indent header
  refine ⟨_, rest, rfl, rfl, fun htop => hblank ?_, ?_, fun htarget => hiff.mpr ?_, hiff,
    fun hreturn => hiff.mpr ?_⟩
  · rintro hnil
    exact htop (by rw [hnil]; rfl)
  · rw [lines_header_append, lines_header]
  · intro line hline
    rw [htarget, Target.linesOfRow_rust (newline_notMem_of_mem_lines hline)]
    simp
  · intro line hline
    rw [Target.linesOfRow_eq_singleton (newline_notMem_of_mem_lines hline) _ (hreturn line hline)]
    simp

/-- A table with one node, which has no fields. -/
def leafTable : ResolvedTable where
  base := "Expr"
  visitorParameter := "expr"
  shapes := [⟨⟨"Leaf", []⟩, "visitLeafExpr"⟩]
  dataTypes := []

/-- The configuration in which nothing is chosen but the target and the header. -/
def headedConfig (target : Target) (header : String) : Config :=
  { Config.ofTarget target with header := some header }

theorem exists_leafDocument (target : Target) (header : String) :
    ∃ doc, leafTable.generate (headedConfig target header) = .ok doc := by
  cases target with
  | java => exact ⟨_, rfl⟩
  | rust => exact ⟨_, rfl⟩

theorem header_within_comment_returns :
    (∃ doc, leafTable.generate (headedConfig .java "One\r\n\nTwo\r// three\r") = .ok doc) ∧
    (∀ line ∈ Target.java.lines
      (renderLines "  " (commentLines "One\r\n\nTwo\r// three\r")).toList, IsComment line) ∧
    (∃ doc, leafTable.generate (headedConfig .rust "One\rtwo") = .ok doc) ∧
    ∀ line ∈ Target.rust.lines (renderLines "    " (commentLines "One\rtwo")).toList,
      IsComment line := by
  obtain ⟨classes, hclasses⟩ := exists_leafDocument .java "One\r\n\nTwo\r// three\r"
  obtain ⟨union, hunion⟩ := exists_leafDocument .rust "One\rtwo"
  obtain ⟨_, _, -, rfl, -, -, -, hiff, -⟩ := ResolvedTable.header_within_comment hclasses rfl
  obtain ⟨_, _, -, rfl, -, -, hrust, -⟩ := ResolvedTable.header_within_comment hunion rfl
  exact ⟨⟨_, hclasses⟩, hiff.mpr (by decide), ⟨_, hunion⟩, hrust rfl⟩

/-- **A header may escape.**  What follows a carriage return within a line of the header is a line
of the class hierarchy and no comment. -/
theorem stray_header_escapes :
    (∃ doc, leafTable.generate (headedConfig .java "Do not edit.\rimport lib.Loose;") = .ok doc) ∧
    Target.java.lines (renderLines "  " (commentLines "Do not edit.\rimport lib.Loose;")).toList =
      ["// Do not edit.".toList, "import lib.Loose;".toList] ∧
    ¬ IsComment "import lib.Loose;".toList := by
  refine ⟨exists_leafDocument _ _, ?_, by decide⟩
  rw [lines_header]
  decide

end AstForge
