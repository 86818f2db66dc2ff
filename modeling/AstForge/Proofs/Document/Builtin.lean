import AstForge.Generate
import AstForge.Proofs.Document.Assembly
import AstForge.Proofs.Table.Parsed
import AstForge.Table.Builtin

/-!
# Documents — of the built-in tables

Both targets write a document for each of the two built-in tables, whatever else is chosen about it:
what a check refuses depends on the target alone.

* `exists_exprDocument`, `exists_stmtDocument`: the documents of the built-in tables exist.
* `Table.generate_ne_write`: making a document never fails because a file cannot be written.
-/

namespace AstForge

open Text

/-- Making a document never fails by a write. -/
theorem Table.generate_ne_write (t : Table) (cfg : Config) (path : String) (cause : FileError) :
    t.generate cfg ≠ .error (.write path cause) := by
  rw [Table.generate, ResolvedTable.generate_eq_map_check]
  cases hcheck : Document.check cfg t.resolve with
  | ok u =>
      intro h
      cases h
  | error e =>
      intro h
      cases h
      rw [Document.check] at hcheck
      split at hcheck
      · exact ClassHierarchy.check_ne_write _ hcheck
      · exact TaggedUnion.check_ne_write _ hcheck

/-! ### Declarations as characters -/

/-- Reads a declaration from its characters. -/
def Declaration.ofChars (cs : List Char) : Except ReadError Declaration :=
  match dataBody? cs with
  | some body => return .dataType (← Shape.ofChars body)
  | none => return .shape (← Shape.ofChars cs)

theorem Declaration.parse_ofList (cs : List Char) :
    Declaration.parse (String.ofList cs) = ofChars cs := by
  rw [parse, String.toList_ofList]
  rfl

/-- Reads the table of some declarations, and refuses one that is not valid or that a target cannot
write. -/
def checkChars (base : String) (declarations : List (List Char)) : Except GenerationError Unit := do
  let declarations ← (declarations.mapM Declaration.ofChars).mapError (.table <| .read ·)
  let t := declarations.foldl Table.declare (.empty base)
  t.validate.mapError .table
  ClassHierarchy.check t.resolve
  TaggedUnion.check t.resolve

/-- Declarations that pass the evaluated check have a document under every configuration. -/
theorem exists_document_of_checkChars {base : String} {declarations : List (List Char)}
    (hbase : trim base.toList = base.toList) (h : checkChars base declarations = .ok ())
    (cfg : Config) :
    ∃ document,
      generateFromDeclarations base (declarations.map String.ofList) cfg = .ok document := by
  obtain ⟨ds, hds, h⟩ := bind_eq_ok_iff.mp h
  obtain ⟨hvalid, h⟩ := check_bind_eq_ok_iff.mp h
  obtain ⟨hclasses, hunion⟩ := check_bind_eq_ok_iff.mp h
  have hparsed : List.Forall₂ (fun text d => Declaration.parse text = .ok d)
      (declarations.map String.ofList) ds := by
    rw [List.forall₂_map_left_iff]
    simp only [Declaration.parse_ofList]
    exact mapM_eq_ok_iff.mp (mapError_eq_ok_iff.mp hds)
  have htable : Table.ofDeclarations base (declarations.map String.ofList) =
      .ok (ds.foldl Table.declare (.empty base)) := by
    refine Table.ofDeclarations_eq_ok_iff.mpr ⟨ds, hparsed, ?_, mapError_eq_ok_iff.mp hvalid⟩
    rw [hbase, String.ofList_toList]
  have hcheck : Document.check cfg (ds.foldl Table.declare (.empty base)).resolve = .ok () := by
    rw [Document.check]
    split
    · exact hclasses
    · exact hunion
  exact ⟨_, bind_eq_ok_iff.mpr ⟨_, mapError_eq_ok_iff.mpr htable,
    Table.generate_eq_ok_iff.mpr ⟨hcheck, rfl⟩⟩⟩

/-! ### The built-in tables -/

-- The characters of a literal are found by unification.  Evaluating the declarations themselves
-- would decode the literals, which takes most of the time.

/-- The built-in table of expressions always has a document. -/
theorem exists_exprDocument (cfg : Config) :
    ∃ document, generateFromDeclarations "Expr" exprDeclarations cfg = .ok document := by
  obtain ⟨declarations, hliterals, hcheck⟩ : ∃ declarations : List (List Char),
      exprDeclarations = declarations.map String.ofList ∧
        checkChars "Expr" declarations = .ok () :=
    ⟨[_, _, _, _, _, _, _, _, _, _, _, _, _, _], rfl, by decide +kernel⟩
  rw [hliterals]
  exact exists_document_of_checkChars (by decide +kernel) hcheck cfg

/-- The built-in table of statements always has a document. -/
theorem exists_stmtDocument (cfg : Config) :
    ∃ document, generateFromDeclarations "Stmt" stmtDeclarations cfg = .ok document := by
  obtain ⟨declarations, hliterals, hcheck⟩ : ∃ declarations : List (List Char),
      stmtDeclarations = declarations.map String.ofList ∧
        checkChars "Stmt" declarations = .ok () :=
    ⟨[_, _, _, _, _, _, _, _, _, _, _, _, _], rfl, by decide +kernel⟩
  rw [hliterals]
  exact exists_document_of_checkChars (by decide +kernel) hcheck cfg

end AstForge
