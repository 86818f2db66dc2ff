import AstForge.Proofs.Except
import AstForge.Table.Validity

/-!
# Tables — the rules that validation decides

`Table.Valid` states the rules without an order of checking: the base type is an identifier, there
is a shape, declared names are identifiers other than the base type and pairwise distinct, and no
declaration repeats a field.  `validate_eq_ok_iff` says that validation passes exactly the tables
that keep all of them.  The loops of the check carry the names seen so far; what they leave unseen
is what the rules say about the rest of the list.

`DeclarationRule` lists what the check looks at in one declaration, in the order in which it does.
`checkDeclared_cons` says what the check does there: it goes on if the declaration breaks no rule,
and else reports the first rule that it breaks.
-/

namespace AstForge

open Text

/-- The declarations of a table with their names and fields, shapes first. -/
def Table.declaredShapes (t : Table) : List Shape :=
  t.shapes.toList ++ t.dataTypes.toList

/-- The rules of tables. -/
structure Table.Valid (t : Table) : Prop where
  base : isIdentifier t.base.toList
  nonempty : t.shapes.toList ≠ []
  names : ∀ s ∈ t.declaredShapes, isIdentifier s.name.toList
  base_notMem : t.base ∉ t.declaredShapes.map (·.name)
  nodup : (t.declaredShapes.map (·.name)).Nodup
  fields : ∀ s ∈ t.declaredShapes, (s.fields.map (·.identifier)).Nodup

/-! ### Fields -/

/-- Fields pass when they are new and differ from each other. -/
theorem checkFields_eq_ok_iff {owner : String} {seen : List String} {fs : List Field} :
    checkFields owner seen fs = .ok () ↔
      (∀ f ∈ fs, f.identifier ∉ seen) ∧ (fs.map (·.identifier)).Nodup := by
  induction fs generalizing seen with
  | nil => simp [checkFields]
  | cons f fs ih =>
      rw [checkFields]
      split
      · next h => simp [h]
      · next h =>
          rw [ih, List.map_cons, List.nodup_cons, List.forall_mem_cons]
          simp only [List.mem_cons, not_or, List.mem_map, not_exists, not_and]
          constructor
          · rintro ⟨hseen, hnodup⟩
            exact ⟨⟨h, fun g hg => (hseen g hg).2⟩, fun g hg => (hseen g hg).1, hnodup⟩
          · rintro ⟨⟨-, hseen⟩, hne, hnodup⟩
            exact ⟨fun g hg => ⟨hne g hg, hseen g hg⟩, hnodup⟩

/-- `e` reports the first field of `s` that repeats the identifier of an earlier one. -/
def Shape.RepeatsField (s : Shape) (e : TableError) : Prop :=
  ∃ before f after, s.fields = before ++ f :: after ∧ (before.map (·.identifier)).Nodup ∧
    f.identifier ∈ before.map (·.identifier) ∧
    e = .duplicate .field (s.name ++ "." ++ f.identifier)

/-- Fields fail at the first one that is not new. -/
theorem checkFields_eq_error_iff {owner : String} {seen : List String} {fs : List Field}
    {e : TableError} :
    checkFields owner seen fs = .error e ↔
      ∃ before f after, fs = before ++ f :: after ∧ checkFields owner seen before = .ok () ∧
        (f.identifier ∈ before.map (·.identifier) ∨ f.identifier ∈ seen) ∧
        e = .duplicate .field (owner ++ "." ++ f.identifier) := by
  induction fs generalizing seen with
  | nil => simp [checkFields]
  | cons g fs ih =>
      rw [checkFields]
      constructor
      · intro h
        split at h
        · next hseen => exact ⟨[], g, fs, rfl, rfl, .inr hseen, (Except.error.inj h).symm⟩
        · next hseen =>
            -- The identifier of `g` is seen from here on, and stands before the field in the list.
            obtain ⟨before, f, after, rfl, hbefore, hf, rfl⟩ := ih.mp h
            refine ⟨g :: before, f, after, rfl, ?_, ?_, rfl⟩
            · rw [checkFields, if_neg hseen]
              exact hbefore
            · simp only [List.mem_cons, List.map_cons] at hf ⊢
              tauto
      · rintro ⟨before, f, after, hfs, hbefore, hf, rfl⟩
        cases before with
        | nil =>
            obtain ⟨rfl, rfl⟩ := List.cons.inj hfs
            exact if_pos (hf.resolve_left (by simp))
        | cons x before =>
            obtain ⟨rfl, rfl⟩ := List.cons.inj hfs
            rw [checkFields] at hbefore
            split at hbefore
            · cases hbefore
            · next hseen =>
                rw [if_neg hseen]
                refine ih.mpr ⟨before, f, after, rfl, hbefore, ?_, rfl⟩
                simp only [List.mem_cons, List.map_cons] at hf ⊢
                tauto

/-- A shape repeats a field when the check of its fields fails. -/
theorem Shape.repeatsField_iff {s : Shape} {e : TableError} :
    s.RepeatsField e ↔ checkFields s.name [] s.fields = .error e := by
  simp [Shape.RepeatsField, checkFields_eq_error_iff, checkFields_eq_ok_iff]

/-! ### One declaration -/

/-- What every declaration of a table has to keep: its name is an identifier, it is not that of the
base type, no earlier declaration has it, and no field repeats. -/
inductive DeclarationRule where
  | identifier
  | notBase
  | unused
  | fields

namespace DeclarationRule

/-- The rules whose breach is reported rather than that of the given one. -/
def preceding : DeclarationRule → List DeclarationRule
  | .identifier => []
  | .notBase    => [.identifier]
  | .unused     => [.identifier, .notBase]
  | .fields     => [.identifier, .notBase, .unused]

/-- The declaration `s` breaks the rule, where `earlier` are the names declared before it. -/
def Broken (base : String) (earlier : List String) (s : Shape) : DeclarationRule → Prop
  | .identifier => ¬ isIdentifier s.name.toList
  | .notBase    => s.name = base
  | .unused     => s.name ∈ earlier
  | .fields     => ¬ (s.fields.map (·.identifier)).Nodup

/-- `e` reports that the declaration `s` breaks the rule. -/
def Reports (role : Role) (s : Shape) (e : TableError) : DeclarationRule → Prop
  | .identifier => e = .invalidName role s.name
  | .notBase    => e = .shadowsBase s.name
  | .unused     => e = .duplicate role s.name
  | .fields     => s.RepeatsField e

/-- Of two different rules, one comes before the other. -/
theorem eq_or_preceding (rule other : DeclarationRule) :
    rule = other ∨ rule ∈ other.preceding ∨ other ∈ rule.preceding := by
  cases rule <;> cases other <;> simp [preceding]

end DeclarationRule

/-- The declaration `s` breaks no rule. -/
def Faultless (base : String) (earlier : List String) (s : Shape) : Prop :=
  ∀ rule : DeclarationRule, ¬ rule.Broken base earlier s

/-- The rule is the first one that the declaration `s` breaks. -/
def FirstBroken (base : String) (earlier : List String) (s : Shape) (rule : DeclarationRule) :
    Prop :=
  rule.Broken base earlier s ∧ ∀ other ∈ rule.preceding, ¬ other.Broken base earlier s

section

variable {base : String} {earlier : List String} {s : Shape} {role : Role} {e : TableError}

/-- A declaration without a fault, rule by rule. -/
theorem faultless_iff :
    Faultless base earlier s ↔ isIdentifier s.name.toList ∧ s.name ≠ base ∧ s.name ∉ earlier ∧
      (s.fields.map (·.identifier)).Nodup := by
  constructor
  · intro h
    exact ⟨not_not.mp (h .identifier), h .notBase, h .unused, not_not.mp (h .fields)⟩
  · rintro ⟨hid, hbase, hunused, hfields⟩ rule
    cases rule with
    | identifier => exact not_not.mpr hid
    | notBase => exact hbase
    | unused => exact hunused
    | fields => exact not_not.mpr hfields

/-- At most one rule is the first that is broken. -/
theorem FirstBroken.unique {rule other : DeclarationRule} (h : FirstBroken base earlier s rule)
    (h' : FirstBroken base earlier s other) : rule = other := by
  rcases rule.eq_or_preceding other with heq | hlt | hgt
  · exact heq
  · exact absurd h.1 (h'.2 rule hlt)
  · exact absurd h'.1 (h.2 other hgt)

/-- A rule reports one error. -/
theorem DeclarationRule.Reports.unique {rule : DeclarationRule} {e' : TableError}
    (h : rule.Reports role s e) (h' : rule.Reports role s e') : e = e' := by
  cases rule with
  | identifier => exact h.trans h'.symm
  | notBase => exact h.trans h'.symm
  | unused => exact h.trans h'.symm
  | fields =>
      have herror := Shape.repeatsField_iff.mp h
      rw [Shape.repeatsField_iff.mp h'] at herror
      exact (Except.error.inj herror).symm

end

/-- **One declaration.**  The check goes on if it breaks no rule; otherwise the first rule that it
breaks is reported. -/
theorem checkDeclared_cons (base : String) (seen : List String) (role : Role) (s : Shape)
    (rest : List (Role × Shape)) :
    (Faultless base seen s ∧
      checkDeclared base seen ((role, s) :: rest) = checkDeclared base (s.name :: seen) rest) ∨
    ∃ rule e, FirstBroken base seen s rule ∧ rule.Reports role s e ∧
      checkDeclared base seen ((role, s) :: rest) = .error e := by
  rw [checkDeclared]
  by_cases hid : isIdentifier s.name.toList
  · rw [if_neg (by simp [hid])]
    by_cases hbase : s.name = base
    · rw [if_pos (by simp [hbase])]
      exact .inr ⟨.notBase, _,
        ⟨hbase, by simp [DeclarationRule.preceding, DeclarationRule.Broken, hid]⟩, rfl, rfl⟩
    · rw [if_neg (by simp [hbase])]
      by_cases hunused : s.name ∈ seen
      · rw [if_pos hunused]
        exact .inr ⟨.unused, _,
          ⟨hunused, by simp [DeclarationRule.preceding, DeclarationRule.Broken, hid, hbase]⟩,
          rfl, rfl⟩
      · rw [if_neg hunused]
        cases hfields : checkFields s.name [] s.fields with
        | ok _ =>
            have hnodup := (checkFields_eq_ok_iff.mp hfields).2
            exact .inl ⟨faultless_iff.mpr ⟨hid, hbase, hunused, hnodup⟩, rfl⟩
        | error e =>
            have hrepeated : ¬ (s.fields.map (·.identifier)).Nodup := by
              intro hnodup
              rw [checkFields_eq_ok_iff.mpr ⟨by simp, hnodup⟩] at hfields
              cases hfields
            exact .inr ⟨.fields, e,
              ⟨hrepeated, by
                simp [DeclarationRule.preceding, DeclarationRule.Broken, hid, hbase, hunused]⟩,
              Shape.repeatsField_iff.mpr hfields, rfl⟩
  · rw [if_pos (by simp [hid])]
    exact .inr ⟨.identifier, _, ⟨hid, by simp [DeclarationRule.preceding]⟩, rfl, rfl⟩

/-- The rules that concern one declaration alone. -/
def DeclarationValid (base : String) (s : Shape) : Prop :=
  isIdentifier s.name.toList ∧ s.name ≠ base ∧ (s.fields.map (·.identifier)).Nodup

/-! ### Tables -/

/-- Declarations pass when each is valid and their names are new and differ. -/
theorem checkDeclared_eq_ok_iff {base : String} {seen : List String} {ds : List (Role × Shape)} :
    checkDeclared base seen ds = .ok () ↔
      (∀ s ∈ ds.map Prod.snd, DeclarationValid base s) ∧
        (∀ s ∈ ds.map Prod.snd, s.name ∉ seen) ∧ ((ds.map Prod.snd).map (·.name)).Nodup := by
  induction ds generalizing seen with
  | nil => simp [checkDeclared]
  | cons d ds ih =>
      obtain ⟨role, s⟩ := d
      rw [List.map_cons, List.map_cons, List.nodup_cons, List.forall_mem_cons,
        List.forall_mem_cons]
      rcases checkDeclared_cons base seen role s ds with ⟨hs, heq⟩ | ⟨rule, e, hfirst, -, heq⟩
      · obtain ⟨hid, hbase, hseen, hf⟩ := faultless_iff.mp hs
        rw [heq, ih]
        simp only [List.mem_cons, not_or]
        constructor
        · rintro ⟨hvalid, hrest, hnodup⟩
          refine ⟨⟨⟨hid, hbase, hf⟩, hvalid⟩, ⟨hseen, fun x hx => (hrest x hx).2⟩, ?_, hnodup⟩
          intro hm
          obtain ⟨x, hx, hxs⟩ := List.mem_map.mp hm
          exact (hrest x hx).1 hxs
        · rintro ⟨⟨-, hvalid⟩, ⟨-, hrest⟩, hm, hnodup⟩
          refine ⟨hvalid, fun x hx => ⟨?_, hrest x hx⟩, hnodup⟩
          exact fun hxs => hm (List.mem_map.mpr ⟨x, hx, hxs⟩)
      · rw [heq]
        simp only [reduceCtorEq, false_iff]
        rintro ⟨⟨⟨hid, hbase, hf⟩, -⟩, ⟨hseen, -⟩, -⟩
        exact faultless_iff.mpr ⟨hid, hbase, hseen, hf⟩ rule hfirst.1

theorem Table.map_snd_declared (t : Table) : t.declared.map Prod.snd = t.declaredShapes := by
  simp [Table.declared, Table.declaredShapes, Function.comp_def]

/-- **Validation** passes exactly the tables that keep the rules. -/
theorem Table.validate_eq_ok_iff {t : Table} : t.validate = .ok () ↔ t.Valid := by
  rw [Table.validate]
  by_cases hid : isIdentifier t.base.toList
  · by_cases hempty : t.shapes.isEmpty
    · have hnil : t.shapes.toList = [] := by simpa using hempty
      simp only [hid, hempty, Bool.not_true, Bool.false_eq_true, if_false, if_true, reduceCtorEq,
        false_iff]
      exact fun h => h.nonempty hnil
    · have hne : t.shapes.toList ≠ [] := by simpa using hempty
      simp only [hid, hempty, Bool.not_true, Bool.false_eq_true, if_false, checkDeclared_eq_ok_iff,
        t.map_snd_declared]
      constructor
      · rintro ⟨hvalid, -, hnodup⟩
        refine ⟨hid, hne, fun s hs => (hvalid s hs).1, fun hm => ?_, hnodup,
          fun s hs => (hvalid s hs).2.2⟩
        obtain ⟨s, hs, hbase⟩ := List.mem_map.mp hm
        exact (hvalid s hs).2.1 hbase
      · intro h
        refine ⟨fun s hs => ⟨h.names s hs, fun hbase => ?_, h.fields s hs⟩, by simp, h.nodup⟩
        exact h.base_notMem (List.mem_map.mpr ⟨s, hs, hbase⟩)
  · simp only [hid, Bool.not_false, if_true, reduceCtorEq, false_iff]
    exact fun h => hid h.base

end AstForge
