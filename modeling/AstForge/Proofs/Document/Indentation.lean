import AstForge.Proofs.Document.Rows

/-!
# Documents — indentation only indents

What a level is indented by is chosen when the lines of a document are rendered.  The lines
themselves, and whether there are any, do not depend on it (`Document.lines_indent`).  Rendering
puts it in front of a line and nowhere else, so it is gone when each row loses its leading spaces
and tabs; this holds too where the text of a line has line feeds, since only the first of its rows
is indented (`rows_renderLines_eq_flatMap`).

* `Table.generate_indented`: documents that differ in the indentation of a level have the same rows,
  and one is made exactly when the other is.
-/

namespace AstForge

open Text

/-! ### One line -/

/-- Indentation in front of a row is gone with the row's own. -/
theorem unindent_dropReturn_append {w : List Char} (h : ∀ c ∈ w, isIndentChar c) (p : List Char) :
    unindent (dropReturn (w ++ p)) = unindent (dropReturn p) := by
  have hreturn : '\r' ∉ w := fun hm => absurd (h _ hm) (by decide)
  rw [dropReturn_append hreturn, unindent, List.dropWhile_append_of_pos h, unindent]

/-- The rows of a line, without indentation and final carriage returns; a line that holds line feeds
becomes several. -/
def Line.bareRows (l : Line) : List (List Char) :=
  (l.text.toList.splitOn '\n').map fun p => unindent (dropReturn p)

variable {indent : String}

/-- **One line.**  The indentation stands in front of its first row. -/
theorem Line.map_splitOn_row (h : ∀ c ∈ indent.toList, isIndentChar c) (l : Line) :
    ((l.row indent).splitOn '\n').map (fun p => unindent (dropReturn p)) = l.bareRows := by
  obtain ⟨w, hw, hrow⟩ := l.row_spec h
  have hnewline : '\n' ∉ w := fun hm => absurd (hw _ hm) (by decide)
  obtain ⟨p, ps, hps⟩ := List.exists_cons_of_ne_nil (List.splitOn_ne_nil '\n' l.text.toList)
  rw [hrow, splitOn_append_of_notMem hnewline, Line.bareRows, hps, List.modifyHead_cons,
    List.map_cons, List.map_cons, unindent_dropReturn_append hw]

/-! ### All lines -/

/-- **All lines.**  The rows of a document are those of its lines, whatever a level is indented
by. -/
theorem rows_renderLines_eq_flatMap (h : ∀ c ∈ indent.toList, isIndentChar c) (ls : List Line) :
    rows (renderLines indent ls) = ls.flatMap Line.bareRows := by
  rw [rows, toList_renderLines]
  induction ls with
  | nil => rfl
  | cons l ls ih =>
      rw [List.map_cons, List.flatMap_cons, List.append_assoc, List.singleton_append,
        lines_append_cons_newline, List.map_append, List.map_map, ih, List.flatMap_cons]
      exact congrArg (· ++ _) (l.map_splitOn_row h)

/-- The lines of a document are made without a look at the indentation. -/
theorem Document.lines_indent (cfg : Config) (indent : String) (t : ResolvedTable) :
    Document.lines { cfg with indent := indent } t = Document.lines cfg t := by
  obtain ⟨target, -, package, imports, header, derives⟩ := cfg
  cases target with
  | java => rfl
  | rust => rfl

/-- A document is its lines, rendered with the indentation. -/
theorem Table.generate_indent_eq (t : Table) (cfg : Config) (indent : String) :
    t.generate { cfg with indent := indent } =
      (Document.lines cfg t.resolve).map (renderLines indent) := by
  rw [Table.generate, ResolvedTable.generate, Document.lines_indent]

/-- **Indentation only indents.**  Take any table, whether it was read from a text or not, and two
configurations that differ only in what a level is indented by, spaces and tabs in both.  The
document is made under one exactly when it is under the other, and if not for the same reason.  The
two documents have the same number of lines, and are equal line by line after the leading spaces and
tabs are removed. -/
theorem Table.generate_indented (t : Table) (cfg : Config) {indent indent' : String}
    (h : ∀ c ∈ indent.toList, isIndentChar c) (h' : ∀ c ∈ indent'.toList, isIndentChar c) :
    ((∃ doc, t.generate { cfg with indent := indent } = .ok doc) ↔
        ∃ doc, t.generate { cfg with indent := indent' } = .ok doc) ∧
      (∀ e, t.generate { cfg with indent := indent } = .error e ↔
        t.generate { cfg with indent := indent' } = .error e) ∧
      ∀ doc doc', t.generate { cfg with indent := indent } = .ok doc →
        t.generate { cfg with indent := indent' } = .ok doc' →
          (lines doc.toList).length = (lines doc'.toList).length ∧
            (lines doc.toList).map unindent = (lines doc'.toList).map unindent := by
  rw [t.generate_indent_eq cfg indent, t.generate_indent_eq cfg indent']
  cases Document.lines cfg t.resolve with
  | error e => simp [Except.map]
  | ok ls =>
      refine ⟨⟨fun _ => ⟨_, rfl⟩, fun _ => ⟨_, rfl⟩⟩, fun e => ⟨nofun, nofun⟩, ?_⟩
      intro doc doc' hdoc hdoc'
      obtain rfl := Except.ok.inj hdoc
      obtain rfl := Except.ok.inj hdoc'
      have hrows : rows (renderLines indent ls) = rows (renderLines indent' ls) := by
        rw [rows_renderLines_eq_flatMap h, rows_renderLines_eq_flatMap h']
      exact ⟨by simpa [rows] using congrArg List.length hrows, hrows⟩

/-- A shape with a field of the base type, and a data type. -/
def letTable : Table :=
  ((Table.empty "Expr").addShape ⟨"Let", [⟨"Expr", "value"⟩]⟩).addDataType ⟨"Pair", []⟩

/-- Settings that put line feeds into the header and into the derived traits. -/
def brokenConfig (target : Target) : Config :=
  ⟨target, "", some "a", ["b"], some "c\n\n  d", ["E,\n\tF"]⟩

theorem generate_indented_letTable :
    Table.ofSource "Expr" "Let: Expr value\nstruct Pair:" = .ok letTable ∧
      ∀ target, ∃ doc doc',
        letTable.generate { brokenConfig target with indent := " \t" } = .ok doc ∧
        letTable.generate { brokenConfig target with indent := "" } = .ok doc' ∧
        (lines doc.toList).length = (lines doc'.toList).length ∧
        (lines doc.toList).map unindent = (lines doc'.toList).map unindent := by
  refine ⟨rfl, fun target => ?_⟩
  have hcheck : ∀ target, Document.check (brokenConfig target) letTable.resolve = .ok ()
    | .java => by decide +kernel
    | .rust => by decide +kernel
  have hdoc' : letTable.generate { brokenConfig target with indent := "" } = .ok _ :=
    Table.generate_eq_ok_iff.mpr ⟨hcheck target, rfl⟩
  obtain ⟨hiff, -, hrows⟩ := Table.generate_indented letTable (brokenConfig target)
    (by simp [isIndentChar] : ∀ c ∈ " \t".toList, isIndentChar c)
    (by simp : ∀ c ∈ "".toList, isIndentChar c)
  obtain ⟨doc, hdoc⟩ := hiff.mpr ⟨_, hdoc'⟩
  exact ⟨doc, _, hdoc, hdoc', hrows doc _ hdoc hdoc'⟩

end AstForge
