import AstForge.Proofs.Document.Form

/-!
# Documents — the check is the only gate

The steps that make the pieces of a document may refuse a name, and they run after the check.  No
step refuses a name that the check lets pass, whatever the table: it need not be valid, nor even
come from a table that was read.

* `Document.lines_eq_map_check`: the lines of a document are the result of the check with the lines
  of the form put in the place of its success.
* `ResolvedTable.generate_gated_by_check`: the text is made exactly when the check passes, a failure
  is the error of the check, and the text is that of the pieces in their order.
-/

namespace AstForge

/-! ### The text of several pieces -/

theorem renderLines_cons (indent : String) (l : Line) (ls : List Line) :
    renderLines indent (l :: ls) = l.render indent ++ renderLines indent ls := by
  rw [renderLines, List.map_cons, String.join_cons, renderLines]

theorem renderLines_append (indent : String) (ls ls' : List Line) :
    renderLines indent (ls ++ ls') = renderLines indent ls ++ renderLines indent ls' := by
  rw [renderLines, List.map_append, String.join_append, renderLines, renderLines]

/-- A blank line is never indented. -/
theorem renderLines_blank_cons (indent : String) (ls : List Line) :
    renderLines indent (Line.blank :: ls) = "\n" ++ renderLines indent ls := by
  rw [renderLines_cons]
  simp [Line.render, Line.blank]

/-- Pieces with a blank line before each are rendered with a line feed before each. -/
theorem renderLines_flatMap_blank (indent : String) (pieces : List (List Line)) :
    renderLines indent (pieces.flatMap (Line.blank :: ·)) =
      String.join (pieces.map fun piece => "\n" ++ renderLines indent piece) := by
  induction pieces with
  | nil => rfl
  | cons piece pieces ih =>
      rw [List.flatMap_cons, renderLines_append, renderLines_blank_cons, ih, List.map_cons,
        String.join_cons]

/-! ### The gate -/

namespace Document

/-- The text of a document, from the pieces that may fail and those that do not. -/
def textOf (cfg : Config) (t : ResolvedTable) (visitor : List Line)
    (nodes dataTypes : List (List Line)) : String :=
  let text := renderLines cfg.indent
  text (preamble cfg t) ++ text (opening cfg t) ++ text visitor ++
    String.join (nodes.map fun node => "\n" ++ text node) ++
    String.join (dataTypes.map fun dataType => "\n" ++ text dataType) ++
    "\n" ++ text (dispatch cfg t) ++ text (closing cfg)

/-- **The text of a document** is put together from the texts of its pieces. -/
theorem renderLines_form (cfg : Config) (t : ResolvedTable) :
    renderLines cfg.indent (form cfg t) =
      textOf cfg t (visitorForm cfg t) (t.shapes.map (nodeForm cfg t))
        (t.dataTypes.map (dataTypeForm cfg t)) := by
  simp only [form, textOf, List.flatMap_append, renderLines_append,
    renderLines_blank_cons, renderLines_flatMap_blank, String.append_assoc]

/-- The lines of a document are those of its form, if the table passes the check. -/
theorem lines_eq_map_check (cfg : Config) (t : ResolvedTable) :
    lines cfg t = (check cfg t).map fun _ => form cfg t := by
  cases hcheck : check cfg t with
  | error e => rw [lines, hcheck]; rfl
  | ok u => exact lines_eq_ok_iff.mpr ⟨hcheck, rfl⟩

end Document

/-- A document is the text of its form, if the table passes the check. -/
theorem ResolvedTable.generate_eq_map_check (t : ResolvedTable) (cfg : Config) :
    t.generate cfg =
      (Document.check cfg t).map fun _ => renderLines cfg.indent (Document.form cfg t) := by
  rw [ResolvedTable.generate, Document.lines_eq_map_check]
  cases Document.check cfg t with
  | error e => rfl
  | ok u => rfl

/-- **The check is the only gate of generation.**  A document is made exactly when the check passes,
and otherwise the error is that of the check.  No step after the check fails: the visitor, the node
of each shape and each data type are made, and the document is the text of the pieces in order. -/
theorem ResolvedTable.generate_gated_by_check (t : ResolvedTable) (cfg : Config) :
    ((∃ doc, t.generate cfg = .ok doc) ↔ Document.check cfg t = .ok ()) ∧
      (∀ e, t.generate cfg = .error e ↔ Document.check cfg t = .error e) ∧
      ∀ doc, t.generate cfg = .ok doc →
        ∃ visitor nodes dataTypes, Document.visitor cfg t = .ok visitor ∧
          List.Forall₂ (fun s node => Document.node cfg t s = .ok node) t.shapes nodes ∧
          List.Forall₂ (fun d dataType => Document.dataType cfg t d = .ok dataType)
            t.dataTypes dataTypes ∧
          doc = Document.textOf cfg t visitor nodes dataTypes := by
  rw [t.generate_eq_map_check cfg]
  cases hcheck : Document.check cfg t with
  | error e => simp [Except.map]
  | ok u =>
      obtain ⟨hvisitor, hnodes, hdata⟩ := Document.pieces_eq_ok hcheck
      refine ⟨⟨fun _ => rfl, fun _ => ⟨_, rfl⟩⟩, fun e => ⟨nofun, nofun⟩, fun doc hdoc => ?_⟩
      obtain rfl := Except.ok.inj hdoc
      exact ⟨_, _, _, hvisitor, mapM_eq_ok_iff.mp (mapM_eq_ok_map hnodes),
        mapM_eq_ok_iff.mp (mapM_eq_ok_map hdata), Document.renderLines_form cfg t⟩

end AstForge
