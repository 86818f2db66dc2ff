import AstForge.Proofs.Table.Valid

/-!
# Tables — the fault that is reported

A table may break several rules, and validation reports one breach.  Which one is said here without
the loops of the check: a bad name of the base type comes before a table without shapes, and both
come before the faults of declarations.  Of these, the first declaration that breaks a rule is
blamed, for the first rule that it breaks (`DeclarationRule.preceding` orders them).

* `checkDeclared_cons_eq_error_iff`: what is reported at one declaration, and
  `checkDeclared_eq_error_iff`, what is reported of all of them.
* `Table.validate_reports_first_fault`: validation passes the tables that keep the rules and reports
  the first fault of every other.
-/

namespace AstForge

open Text

/-! ### One declaration -/

/-- `e` reports the first rule that the declaration `s` breaks. -/
def ReportsFirst (base : String) (earlier : List String) (role : Role) (s : Shape)
    (e : TableError) : Prop :=
  ∃ rule, FirstBroken base earlier s rule ∧ rule.Reports role s e

section

variable {base : String} {earlier : List String} {s : Shape} {role : Role} {e : TableError}

/-- A declaration with a fault is blamed for the first one, and nothing after it matters. -/
theorem FirstBroken.reportsFirst_or_iff {rule : DeclarationRule}
    (h : FirstBroken base earlier s rule) {p : Prop} :
    ReportsFirst base earlier role s e ∨ (Faultless base earlier s ∧ p) ↔
      rule.Reports role s e := by
  constructor
  · rintro (⟨other, hother, hreports⟩ | ⟨hfaultless, -⟩)
    · rwa [h.unique hother]
    · exact absurd h.1 (hfaultless rule)
  · exact fun hreports => .inl ⟨rule, h, hreports⟩

/-- A declaration without a fault reports none, so the fault is a later one's. -/
theorem Faultless.reportsFirst_or_iff (h : Faultless base earlier s) {p : Prop} :
    ReportsFirst base earlier role s e ∨ (Faultless base earlier s ∧ p) ↔ p := by
  constructor
  · rintro (⟨rule, hrule, -⟩ | ⟨-, hp⟩)
    · exact absurd hrule.1 (h rule)
    · exact hp
  · exact fun hp => .inr ⟨h, hp⟩

/-- The first fault of a declaration is reported, and the check goes on if there is none. -/
theorem checkDeclared_cons_eq_error_iff {rest : List (Role × Shape)} :
    checkDeclared base earlier ((role, s) :: rest) = .error e ↔
      ReportsFirst base earlier role s e ∨
        (Faultless base earlier s ∧ checkDeclared base (s.name :: earlier) rest = .error e) := by
  rcases checkDeclared_cons base earlier role s rest with
    ⟨hs, heq⟩ | ⟨rule, e', hfirst, hreports, heq⟩
  · rw [hs.reportsFirst_or_iff, heq]
  · rw [hfirst.reportsFirst_or_iff, heq, Except.error.injEq]
    constructor
    · rintro rfl
      exact hreports
    · exact hreports.unique

end

/-! ### All declarations -/

/-- The names that the declarations declare. -/
def declaredNames (ds : List (Role × Shape)) : List String :=
  ds.map (·.2.name)

/-- `e` reports the first fault among the declarations `ds`, which follow declarations with the
names `earlier`: the declaration that is blamed breaks a rule, and each one before it breaks
none. -/
def FirstFaultAmong (base : String) (earlier : List String) (ds : List (Role × Shape))
    (e : TableError) : Prop :=
  ∃ before role s after, ds = before ++ (role, s) :: after ∧
    (∀ before' d after', before = before' ++ d :: after' →
      Faultless base (declaredNames before' ++ earlier) d.2) ∧
    ReportsFirst base (declaredNames before ++ earlier) role s e

section

variable {base : String} {earlier earlier' : List String} {s : Shape} {role : Role}
  {e : TableError}

/-- A rule looks at the set of earlier names only, not at their order. -/
theorem DeclarationRule.broken_perm (h : earlier.Perm earlier') (rule : DeclarationRule) :
    rule.Broken base earlier s ↔ rule.Broken base earlier' s := by
  cases rule with
  | unused => exact h.mem_iff
  | identifier => exact Iff.rfl
  | notBase => exact Iff.rfl
  | fields => exact Iff.rfl

theorem faultless_perm (h : earlier.Perm earlier') :
    Faultless base earlier s ↔ Faultless base earlier' s :=
  forall_congr' fun rule => not_congr (rule.broken_perm h)

theorem reportsFirst_perm (h : earlier.Perm earlier') :
    ReportsFirst base earlier role s e ↔ ReportsFirst base earlier' role s e :=
  exists_congr fun rule => and_congr_left' <| and_congr (rule.broken_perm h) <|
    forall₂_congr fun other _ => not_congr (other.broken_perm h)

/-- The first fault is that of the first declaration, or the first of the others if it has none. -/
theorem firstFaultAmong_cons {ds : List (Role × Shape)} :
    FirstFaultAmong base earlier ((role, s) :: ds) e ↔
      ReportsFirst base earlier role s e ∨
        (Faultless base earlier s ∧ FirstFaultAmong base (s.name :: earlier) ds e) := by
  constructor
  · rintro ⟨before, role', s', after, hds, hbefore, hfirst⟩
    cases before with
    | nil =>
        obtain ⟨hd, -⟩ := List.cons.inj hds
        obtain ⟨rfl, rfl⟩ := Prod.mk.inj hd
        exact .inl hfirst
    | cons d before =>
        obtain ⟨rfl, rfl⟩ := List.cons.inj hds
        -- The name of `s` counts as an earlier one for the rest; where it stands among them does
        -- not matter.
        refine .inr ⟨hbefore [] _ before rfl, before, role', s', after, rfl, ?_, ?_⟩
        · rintro before' d after' rfl
          exact (faultless_perm List.perm_middle).mpr (hbefore (_ :: before') d after' rfl)
        · exact (reportsFirst_perm List.perm_middle).mpr hfirst
  · rintro (hfirst | ⟨hfaultless, before, role', s', after, rfl, hbefore, hfirst⟩)
    · exact ⟨[], role, s, ds, rfl, by simp, hfirst⟩
    · refine ⟨(role, s) :: before, role', s', after, rfl, ?_, ?_⟩
      · intro before' d after' hsplit
        cases before' with
        | nil =>
            obtain ⟨rfl, -⟩ := List.cons.inj hsplit
            exact hfaultless
        | cons d' before' =>
            obtain ⟨rfl, rfl⟩ := List.cons.inj hsplit
            exact (faultless_perm List.perm_middle).mp (hbefore before' d after' rfl)
      · exact (reportsFirst_perm List.perm_middle).mp hfirst

/-- **All declarations.**  The check reports the first fault among them. -/
theorem checkDeclared_eq_error_iff {ds : List (Role × Shape)} :
    checkDeclared base earlier ds = .error e ↔ FirstFaultAmong base earlier ds e := by
  induction ds generalizing earlier with
  | nil => simp [checkDeclared, FirstFaultAmong]
  | cons d ds ih => rw [checkDeclared_cons_eq_error_iff, firstFaultAmong_cons, ih]

end

/-! ### Tables -/

/-- `e` reports the first fault of the table. -/
inductive Table.FirstFault (t : Table) : TableError → Prop where
  | base (h : ¬ isIdentifier t.base.toList) : t.FirstFault (.invalidName .baseType t.base)
  | noShapes (hbase : isIdentifier t.base.toList) (h : t.shapes.toList = []) :
      t.FirstFault (.noShapes t.base)
  | declaration {e : TableError} (hbase : isIdentifier t.base.toList)
      (hshapes : t.shapes.toList ≠ []) (h : FirstFaultAmong t.base [] t.declared e) :
      t.FirstFault e

/-- **The error of validation** is the first fault. -/
theorem Table.validate_eq_error_iff {t : Table} {e : TableError} :
    t.validate = .error e ↔ t.FirstFault e := by
  rw [Table.validate]
  constructor
  · intro h
    split at h
    · next hbase =>
        obtain rfl := Except.error.inj h
        exact .base (by simpa using hbase)
    · next hbase =>
        have hbase : isIdentifier t.base.toList := by simpa using hbase
        split at h
        · next hshapes =>
            obtain rfl := Except.error.inj h
            exact .noShapes hbase (by simpa using hshapes)
        · next hshapes =>
            exact .declaration hbase (by simpa using hshapes) (checkDeclared_eq_error_iff.mp h)
  · intro h
    cases h with
    | base hbase => exact if_pos (by simpa using hbase)
    | noShapes hbase hshapes =>
        rw [if_neg (by simp [hbase])]
        exact if_pos (by simpa using hshapes)
    | declaration hbase hshapes h =>
        rw [if_neg (by simp [hbase]), if_neg (by simpa using hshapes)]
        exact checkDeclared_eq_error_iff.mpr h

/-- A fault of a table is none of its text. -/
theorem Table.validate_ne_read (t : Table) (cause : ReadError) :
    t.validate ≠ .error (.read cause) := by
  intro h
  cases Table.validate_eq_error_iff.mp h with
  | declaration _ _ h =>
      obtain ⟨_, role, s, _, -, -, rule, -, hreports⟩ := h
      cases rule with
      | identifier => cases hreports
      | notBase => cases hreports
      | unused => cases hreports
      | fields =>
          obtain ⟨_, _, _, -, -, -, heq⟩ := hreports
          cases heq

/-- **Validation decides the rules of tables and reports the first fault.**  It passes exactly the
tables that keep all rules.  It refuses every other for a bad name of the base type, else for having
no shapes, else for the first fault of the first faulty declaration, shapes before data types. -/
theorem Table.validate_reports_first_fault (t : Table) :
    (t.validate = .ok () ↔ t.Valid) ∧ ∀ e, t.validate = .error e ↔ t.FirstFault e :=
  ⟨Table.validate_eq_ok_iff, fun _ => Table.validate_eq_error_iff⟩

/-- The first data type takes the name of the shape and repeats a field, and the second takes the
name of the base type. -/
def clashingTable : Table :=
  (((Table.empty "Expr").addShape ⟨"Call", [⟨"Expr", "callee"⟩]⟩).addDataType
    ⟨"Call", [⟨"u32", "start"⟩, ⟨"u32", "start"⟩]⟩).addDataType ⟨"Expr", []⟩

theorem validate_reports_first_fault_clashingTable :
    ¬ clashingTable.Valid ∧ clashingTable.FirstFault (.duplicate .dataType "Call") := by
  obtain ⟨hvalid, hfault⟩ := Table.validate_reports_first_fault clashingTable
  have herror : clashingTable.validate = .error (.duplicate .dataType "Call") := rfl
  refine ⟨fun h => ?_, (hfault _).mp herror⟩
  rw [hvalid.mpr h] at herror
  cases herror

end AstForge
