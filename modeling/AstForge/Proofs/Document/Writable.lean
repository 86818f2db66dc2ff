import AstForge.Proofs.Except
import AstForge.Document

/-!
# Documents — the tables that a target can write

`ClassHierarchy.Writable` and `TaggedUnion.Writable` state what the two checks refuse, without an
order of checking; each check passes exactly the tables that are writable (`check_eq_ok_iff`).  What
a check says of a table that it refuses is about the table: never that a file cannot be written
(`check_ne_write`).
-/

namespace AstForge

/-- A check that refuses in one case passes when the case is not given and the rest passes. -/
theorem refuse_eq_ok_iff {ε : Type} {p : Prop} [Decidable p] {e : ε} {x : Except ε Unit} :
    (if p then .error e else x) = .ok () ↔ ¬ p ∧ x = .ok () := by
  by_cases hp : p
  · simp [hp]
  · simp [hp]

/-- A check that refuses in one case fails by another error only if the rest does. -/
theorem refuse_ne_error {ε : Type} {p : Prop} [Decidable p] {e e' : ε} {x : Except ε Unit}
    (he : e' ≠ e) (hx : x ≠ .error e) : (if p then .error e' else x) ≠ .error e := by
  split
  · exact fun h => he (Except.error.inj h)
  · exact hx

/-! ### The class hierarchy -/

namespace ClassHierarchy

/-- The declaration has a name and fields that can be written. -/
structure DeclarationWritable (d : ResolvedData) : Prop where
  taken : d.name ∉ takenTypes
  name : d.name ∉ reservedWords
  fields : ∀ f ∈ d.fields, f.identifier ∉ reservedWords

/-- Every name of the table can be written. -/
structure Writable (t : ResolvedTable) : Prop where
  taken : t.base ∉ takenTypes
  base : t.base ∉ reservedWords
  parameter : t.visitorParameter ∉ reservedWords
  shapes : ∀ s ∈ t.shapes, DeclarationWritable s.toResolvedData
  dataTypes : ∀ d ∈ t.dataTypes, DeclarationWritable d

/-- A name passes unless it is reserved. -/
theorem checkName_eq_ok_iff {role : Role} {name : String} :
    checkName role name = .ok () ↔ name ∉ reservedWords := by
  rw [checkName, refuse_eq_ok_iff]
  simp

/-- The name of a type passes unless it is taken or reserved. -/
theorem checkTypeName_eq_ok_iff {role : Role} {name : String} :
    checkTypeName role name = .ok () ↔ name ∉ takenTypes ∧ name ∉ reservedWords := by
  rw [checkTypeName, refuse_eq_ok_iff, checkName_eq_ok_iff]
  simp

/-- A declaration passes exactly when it can be written. -/
theorem checkDeclaration_eq_ok_iff {role : Role} {d : ResolvedData} :
    checkDeclaration role d = .ok () ↔ DeclarationWritable d := by
  rw [checkDeclaration, check_bind_eq_ok_iff, checkTypeName_eq_ok_iff, forM_eq_ok_iff]
  simp only [checkName_eq_ok_iff]
  exact ⟨fun ⟨⟨htaken, hname⟩, hfields⟩ => ⟨htaken, hname, hfields⟩,
    fun h => ⟨⟨h.taken, h.name⟩, h.fields⟩⟩

/-- **The check of class hierarchies** passes exactly the tables that can be written. -/
theorem check_eq_ok_iff {t : ResolvedTable} : check t = .ok () ↔ Writable t := by
  rw [check, check_bind_eq_ok_iff, check_bind_eq_ok_iff, check_bind_eq_ok_iff,
    checkTypeName_eq_ok_iff, checkName_eq_ok_iff, forM_eq_ok_iff, forM_eq_ok_iff]
  simp only [checkDeclaration_eq_ok_iff]
  exact ⟨fun ⟨⟨htaken, hbase⟩, hparameter, hshapes, hdata⟩ =>
      ⟨htaken, hbase, hparameter, hshapes, hdata⟩,
    fun h => ⟨⟨h.taken, h.base⟩, h.parameter, h.shapes, h.dataTypes⟩⟩

variable {path : String} {cause : FileError}

theorem checkName_ne_write (role : Role) (name : String) :
    checkName role name ≠ .error (.write path cause) :=
  refuse_ne_error nofun nofun

theorem checkTypeName_ne_write (role : Role) (name : String) :
    checkTypeName role name ≠ .error (.write path cause) :=
  refuse_ne_error nofun (checkName_ne_write role name)

theorem checkDeclaration_ne_write (role : Role) (d : ResolvedData) :
    checkDeclaration role d ≠ .error (.write path cause) :=
  bind_ne_error (checkTypeName_ne_write _ _) fun _ =>
    forM_ne_error (fun _ => checkName_ne_write _ _) _

/-- The check never fails by a write. -/
theorem check_ne_write (t : ResolvedTable) : check t ≠ .error (.write path cause) :=
  bind_ne_error (checkTypeName_ne_write _ _) fun _ =>
    bind_ne_error (checkName_ne_write _ _) fun _ =>
      bind_ne_error (forM_ne_error (fun _ => checkDeclaration_ne_write _ _) _) fun _ =>
        forM_ne_error (fun _ => checkDeclaration_ne_write _ _) _

end ClassHierarchy

/-! ### The tagged union -/

namespace TaggedUnion

/-- A name as the document writes it, if it can be written: a keyword is written raw. -/
def written (name : String) : String :=
  if name ∈ keywords then "r#" ++ name else name

/-- A name has a written form unless it is one of those that have none. -/
theorem identifier_eq_ok_iff {role name w : String} :
    identifier role name = .ok w ↔ name ∉ unwritable ∧ w = written name := by
  rw [identifier, written]
  by_cases hu : name ∈ unwritable
  · simp [hu]
  · by_cases hk : name ∈ keywords
    · simp [hu, hk, eq_comm]
    · simp [hu, hk, eq_comm]

/-- The name can be the name of a type. -/
structure TypeNameWritable (name : String) : Prop where
  keyword : name ∉ keywords
  unwritable : name ∉ unwritable
  taken : name ∉ takenTypes

/-- The declaration has a name and fields that can be written; `methods` are the methods that it
has besides its accessors. -/
structure DeclarationWritable (base : String) (methods : List String) (d : ResolvedData) :
    Prop where
  visitor : d.name ≠ visitorTrait base
  name : TypeNameWritable d.name
  methods : ∀ f ∈ d.fields, f.identifier ∉ methods
  fields : ∀ f ∈ d.fields, f.identifier ∉ unwritable
  types : ∀ f ∈ d.fields, TypeExpr.accepts f.type

/-- Every name and every type of the table can be written, and visit methods differ. -/
structure Writable (t : ResolvedTable) : Prop where
  base : TypeNameWritable t.base
  parameter : t.visitorParameter ∉ unwritable
  shapes : ∀ s ∈ t.shapes, DeclarationWritable t.base nodeMethods s.toResolvedData
  dataTypes : ∀ d ∈ t.dataTypes, DeclarationWritable t.base dataMethods d
  visitMethods : (t.shapes.map (·.visitMethodSnake)).Nodup

/-- The name of a type passes exactly when it can be written. -/
theorem checkTypeName_eq_ok_iff {role name : String} :
    checkTypeName role name = .ok () ↔ TypeNameWritable name := by
  rw [checkTypeName, refuse_eq_ok_iff]
  simp only [Bool.or_eq_true, List.contains_iff_mem, not_or, and_true]
  exact ⟨fun ⟨⟨hk, hu⟩, ht⟩ => ⟨hk, hu, ht⟩, fun h => ⟨⟨h.keyword, h.unwritable⟩, h.taken⟩⟩

/-- A field passes when it clashes with no method, has a name that can be written and a type that
is accepted. -/
theorem checkField_eq_ok_iff {owner : String} {methods : List String} {f : ResolvedField} :
    checkField owner methods f = .ok () ↔
      f.identifier ∉ methods ∧ f.identifier ∉ unwritable ∧ TypeExpr.accepts f.type := by
  have htype : checkFieldType owner f = .ok () ↔ TypeExpr.accepts f.type := by
    rw [checkFieldType]
    by_cases h : TypeExpr.accepts f.type
    · simp [h]
    · simp [h]
  rw [checkField]
  by_cases h : f.identifier ∈ methods
  · simp only [List.contains_iff_mem, h, if_true, not_true, false_and, iff_false]
    exact nofun
  · simp only [List.contains_iff_mem, h, if_false, not_false_iff, true_and, bind_eq_ok_iff,
      identifier_eq_ok_iff, htype]
    exact ⟨fun ⟨_, ⟨hwritable, _⟩, haccepts⟩ => ⟨hwritable, haccepts⟩,
      fun ⟨hwritable, haccepts⟩ => ⟨_, ⟨hwritable, rfl⟩, haccepts⟩⟩

/-- A declaration passes exactly when it can be written. -/
theorem checkDeclaration_eq_ok_iff {base : String} {role : Role} {methods : List String}
    {d : ResolvedData} :
    checkDeclaration base role methods d = .ok () ↔ DeclarationWritable base methods d := by
  rw [checkDeclaration]
  by_cases h : d.name = visitorTrait base
  · simp only [beq_iff_eq, h, if_true]
    exact ⟨nofun, fun hd => absurd h hd.visitor⟩
  · simp only [beq_iff_eq, h, if_false, check_bind_eq_ok_iff, checkTypeName_eq_ok_iff,
      forM_eq_ok_iff, checkField_eq_ok_iff]
    exact ⟨fun ⟨hname, hfields⟩ => ⟨h, hname, fun f hf => (hfields f hf).1,
        fun f hf => (hfields f hf).2.1, fun f hf => (hfields f hf).2.2⟩,
      fun hd => ⟨hd.name, fun f hf => ⟨hd.methods f hf, hd.fields f hf, hd.types f hf⟩⟩⟩

/-- The loop over the shapes passes when no visit method is among the seen ones or repeated. -/
theorem checkVisitMethods_eq_ok_iff {seen : List (String × String)} {ss : List ResolvedShape} :
    checkVisitMethods seen ss = .ok () ↔
      (∀ s ∈ ss, s.visitMethodSnake ∉ seen.map Prod.fst) ∧
        (ss.map (·.visitMethodSnake)).Nodup := by
  induction ss generalizing seen with
  | nil => simp [checkVisitMethods]
  | cons s ss ih =>
      rw [checkVisitMethods, List.map_cons, List.nodup_cons, List.forall_mem_cons]
      cases hs : seen.lookup s.visitMethodSnake with
      | some first =>
          obtain ⟨before, rest, rfl, -⟩ := List.lookup_eq_some_iff.mp hs
          simp
      | none =>
          have hm : s.visitMethodSnake ∉ seen.map Prod.fst := by
            intro hm
            obtain ⟨p, hp, hfst⟩ := List.mem_map.mp hm
            simpa [hfst] using List.lookup_eq_none_iff.mp hs p hp
          simp only [ih, List.map_cons, List.mem_cons, not_or, hm, not_false_iff, true_and,
            List.mem_map, not_exists, not_and]
          constructor
          · rintro ⟨hseen, hnodup⟩
            exact ⟨fun s' hs' => (hseen s' hs').2, fun s' hs' => (hseen s' hs').1, hnodup⟩
          · rintro ⟨hseen, hne, hnodup⟩
            exact ⟨fun s' hs' => ⟨hne s' hs', hseen s' hs'⟩, hnodup⟩

/-- **The check of tagged unions** passes exactly the tables that can be written. -/
theorem check_eq_ok_iff {t : ResolvedTable} : check t = .ok () ↔ Writable t := by
  rw [check, check_bind_eq_ok_iff, bind_eq_ok_iff]
  simp only [checkTypeName_eq_ok_iff, identifier_eq_ok_iff, check_bind_eq_ok_iff, forM_eq_ok_iff,
    checkDeclaration_eq_ok_iff, checkVisitMethods_eq_ok_iff]
  constructor
  · rintro ⟨hbase, -, ⟨hparameter, -⟩, hshapes, hdata, -, hvisit⟩
    exact ⟨hbase, hparameter, hshapes, hdata, hvisit⟩
  · intro h
    exact ⟨h.base, _, ⟨h.parameter, rfl⟩, h.shapes, h.dataTypes, by simp, h.visitMethods⟩

variable {path : String} {cause : FileError}

theorem identifier_ne_write (role name : String) :
    identifier role name ≠ .error (.write path cause) := by
  rw [identifier]
  split
  · exact nofun
  · split <;> exact nofun

theorem checkField_ne_write (owner : String) (methods : List String) (f : ResolvedField) :
    checkField owner methods f ≠ .error (.write path cause) := by
  have hnamed : (identifier Role.field.label f.identifier >>= fun _ => checkFieldType owner f) ≠
      .error (.write path cause) := by
    refine bind_ne_error (identifier_ne_write _ _) fun _ => ?_
    rw [checkFieldType]
    split <;> exact nofun
  exact refuse_ne_error nofun hnamed

theorem checkDeclaration_ne_write (base : String) (role : Role) (methods : List String)
    (d : ResolvedData) : checkDeclaration base role methods d ≠ .error (.write path cause) := by
  have hfields : (checkTypeName role.label d.name >>= fun _ =>
      d.fields.forM (checkField d.name methods)) ≠ .error (.write path cause) :=
    bind_ne_error (refuse_ne_error nofun nofun) fun _ =>
      forM_ne_error (fun _ => checkField_ne_write _ _ _) _
  exact refuse_ne_error nofun hfields

theorem checkVisitMethods_ne_write (seen : List (String × String)) (shapes : List ResolvedShape) :
    checkVisitMethods seen shapes ≠ .error (.write path cause) := by
  induction shapes generalizing seen with
  | nil => exact nofun
  | cons s shapes ih =>
      rw [checkVisitMethods]
      split
      · exact nofun
      · exact ih _

/-- The check never fails by a write. -/
theorem check_ne_write (t : ResolvedTable) : check t ≠ .error (.write path cause) :=
  bind_ne_error (refuse_ne_error nofun nofun) fun _ =>
    bind_ne_error (identifier_ne_write _ _) fun _ =>
      bind_ne_error (forM_ne_error (fun _ => checkDeclaration_ne_write _ _ _ _) _) fun _ =>
        bind_ne_error (forM_ne_error (fun _ => checkDeclaration_ne_write _ _ _ _) _) fun _ =>
          checkVisitMethods_ne_write _ _

end TaggedUnion

end AstForge
