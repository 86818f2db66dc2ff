import AstForge.Proofs.Document.Writable
import AstForge.Proofs.Text.Snake

/-!
# Documents — visit methods that collide

In a tagged union the visit methods are in snake case, and two shapes may get the same one.

* `TaggedUnion.checkVisitMethods_reports_first_collision`: the check reports the first shape whose
  visit method is taken, with the one earlier shape that has it.
* `TaggedUnion.checkVisitMethods_of_isCamelCase`: shapes that are named in camel case never collide.
-/

namespace AstForge

open Text

/-- The snake case of the visit method tells names in camel case apart, whatever the base type. -/
theorem eq_of_toSnakeCase_visitMethodName {name name' base : String}
    (h : IsCamelCase name.toList) (h' : IsCamelCase name'.toList)
    (heq : toSnakeCase (visitMethodName name base) = toSnakeCase (visitMethodName name' base)) :
    name = name' := by
  have hsmall : IsSmall 't' := by decide
  -- The base type is written alike after both names, so it can be taken off.
  have hsnake : snakeAfter 't' name.toList = snakeAfter 't' name'.toList := by
    simp only [visitMethodName, String.append_assoc, toSnakeCase_visit, String.toList_append,
      snakeAfter_append_of_isCamelCase hsmall h, snakeAfter_append_of_isCamelCase hsmall h',
      String.ofList_append] at heq
    simpa [← String.toList_inj] using heq
  rw [← String.toList_inj, ← readSnake_snakeAfter hsmall h, hsnake, readSnake_snakeAfter hsmall h']

namespace TaggedUnion

/-- `second` is the first shape whose visit method an earlier shape has, and `first` is the one
earlier shape that has it. -/
def FirstCollision (shapes : List ResolvedShape) (first second : ResolvedShape) : Prop :=
  ∃ before after, shapes = before ++ second :: after ∧
    (before.map (·.visitMethodSnake)).Nodup ∧
    before.filter (·.visitMethodSnake == second.visitMethodSnake) = [first]

/-- `seen` holds the visit methods of the shapes of `before`, each with the first shape that has
it. -/
def Owners (seen : List (String × String)) (before : List ResolvedShape) : Prop :=
  ∀ method, seen.lookup method =
    (before.find? (·.visitMethodSnake == method)).map (·.name)

variable {seen : List (String × String)} {before rest : List ResolvedShape} {s : ResolvedShape}

/-- A shape that collides with none before it owns its visit method. -/
theorem Owners.concat (h : Owners seen before) (hs : seen.lookup s.visitMethodSnake = none) :
    Owners ((s.visitMethodSnake, s.name) :: seen) (before ++ [s]) := by
  intro method
  rw [List.find?_append, Option.map_or, ← h method, List.lookup_cons]
  by_cases hm : method = s.visitMethodSnake
  · subst hm
    simp [hs]
  · simp [beq_false_of_ne hm, Ne.symm hm]

/-- A method without an owner is that of no shape before. -/
theorem Owners.notMem_of_lookup_eq_none (h : Owners seen before)
    (hs : seen.lookup s.visitMethodSnake = none) :
    s.visitMethodSnake ∉ before.map (·.visitMethodSnake) := by
  rw [h, Option.map_eq_none_iff, List.find?_eq_none] at hs
  simpa using hs

/-- The owner of a method is the only shape before that has it. -/
theorem Owners.exists_of_lookup_eq_some (h : Owners seen before)
    (hdistinct : (before.map (·.visitMethodSnake)).Nodup) {method name : String}
    (hs : seen.lookup method = some name) :
    ∃ first, before.filter (·.visitMethodSnake == method) = [first] ∧ first.name = name := by
  rw [h, Option.map_eq_some_iff] at hs
  obtain ⟨first, hfind, hname⟩ := hs
  obtain ⟨hmethod, front, back, rfl, hfront⟩ := List.find?_eq_some_iff_append.mp hfind
  obtain rfl := eq_of_beq hmethod
  refine ⟨first, ?_, hname⟩
  have hback : ∀ s ∈ back, s.visitMethodSnake ≠ first.visitMethodSnake := by
    rw [List.map_append, List.map_cons, List.nodup_append] at hdistinct
    intro s hs heq
    exact (List.nodup_cons.mp hdistinct.2.1).1 (List.mem_map.mpr ⟨s, hs, heq⟩)
  refine List.filter_eq_cons_iff.mpr ⟨front, back, rfl, ?_, hmethod, ?_⟩
  · simpa using hfront
  · simpa using hback

/-- What the check reports after it has passed the shapes of `before`. -/
theorem firstCollision_of_checkVisitMethods_eq_error (h : Owners seen before)
    (hdistinct : (before.map (·.visitMethodSnake)).Nodup) {e : GenerationError}
    (herror : checkVisitMethods seen rest = .error e) :
    ∃ first second, FirstCollision (before ++ rest) first second ∧
      e = .collision second.visitMethodSnake first.name second.name .rust := by
  induction rest generalizing seen before with
  | nil => cases herror
  | cons s rest ih =>
      rw [checkVisitMethods] at herror
      cases hs : seen.lookup s.visitMethodSnake with
      | some name =>
          rw [hs] at herror
          obtain ⟨first, hfirst, rfl⟩ := h.exists_of_lookup_eq_some hdistinct hs
          exact ⟨first, s, ⟨before, rest, rfl, hdistinct, hfirst⟩, (Except.error.inj herror).symm⟩
      | none =>
          rw [hs] at herror
          have hconcat : ((before ++ [s]).map (·.visitMethodSnake)).Nodup := by
            rw [List.map_append, List.map_singleton, List.perm_append_comm.nodup_iff]
            exact List.nodup_cons.mpr ⟨h.notMem_of_lookup_eq_none hs, hdistinct⟩
          rw [List.append_cons]
          exact ih (h.concat hs) hconcat herror

/-- Two shapes with one method make it repeated. -/
theorem not_nodup_of_collision {first second : ResolvedShape}
    (hfirst : before.filter (·.visitMethodSnake == second.visitMethodSnake) = [first]) :
    ¬ ((before ++ [second]).map (·.visitMethodSnake)).Nodup := by
  obtain ⟨hmem, hmethod⟩ := List.mem_filter.mp (hfirst ▸ List.mem_singleton_self first)
  rw [List.map_append, List.map_singleton, List.perm_append_comm.nodup_iff]
  intro hnodup
  exact (List.nodup_cons.mp hnodup).1 (List.mem_map.mpr ⟨first, hmem, eq_of_beq hmethod⟩)

/-- Shapes with distinct visit methods do not reach past a collision. -/
theorem length_le_of_collision {before' after after' : List ResolvedShape}
    {first second second' : ResolvedShape}
    (heq : before ++ second :: after = before' ++ second' :: after')
    (hfirst : before.filter (·.visitMethodSnake == second.visitMethodSnake) = [first])
    (hdistinct : (before'.map (·.visitMethodSnake)).Nodup) :
    before'.length ≤ before.length := by
  by_contra hlt
  have hstart : before ++ [second] <+: before' := by
    have hall : before ++ [second] <+: before' ++ second' :: after' :=
      ⟨after, by rw [List.append_assoc, List.singleton_append, heq]⟩
    refine List.prefix_of_prefix_length_le hall (List.prefix_append _ _) ?_
    simpa [Nat.succ_le_iff] using hlt
  exact not_nodup_of_collision hfirst (hdistinct.sublist (hstart.sublist.map _))

/-- Where there is a first collision, the methods are not all different. -/
theorem FirstCollision.not_nodup {shapes : List ResolvedShape} {first second : ResolvedShape}
    (h : FirstCollision shapes first second) :
    ¬ (shapes.map (·.visitMethodSnake)).Nodup := by
  obtain ⟨before, after, rfl, -, hfirst⟩ := h
  have hstart : before ++ [second] <+: before ++ second :: after := ⟨after, by simp⟩
  exact fun hnodup => not_nodup_of_collision hfirst (hnodup.sublist (hstart.sublist.map _))

/-- There is at most one first collision. -/
theorem FirstCollision.unique {shapes : List ResolvedShape}
    {first second first' second' : ResolvedShape} (h : FirstCollision shapes first second)
    (h' : FirstCollision shapes first' second') : first = first' ∧ second = second' := by
  obtain ⟨before, after, rfl, hdistinct, hfirst⟩ := h
  obtain ⟨before', after', heq, hdistinct', hfirst'⟩ := h'
  have hlength : before.length = before'.length :=
    Nat.le_antisymm (length_le_of_collision heq.symm hfirst' hdistinct)
      (length_le_of_collision heq hfirst hdistinct')
  obtain ⟨rfl, htail⟩ := List.append_inj heq hlength
  obtain ⟨rfl, -⟩ := List.cons.inj htail
  rw [hfirst] at hfirst'
  exact ⟨List.head_eq_of_cons_eq hfirst', rfl⟩

/-- **The check of visit methods finds exactly the collisions.**  It passes the tables whose shapes
have distinct visit methods.  Of every other it reports the first collision: the visit method, the
one earlier shape that has it, and the shape that repeats it. -/
theorem checkVisitMethods_reports_first_collision (t : ResolvedTable) :
    (checkVisitMethods [] t.shapes = .ok () ↔ (t.shapes.map (·.visitMethodSnake)).Nodup) ∧
      ∀ e, checkVisitMethods [] t.shapes = .error e ↔
        ∃ first second, FirstCollision t.shapes first second ∧
          e = .collision second.visitMethodSnake first.name second.name .rust := by
  have hok : checkVisitMethods [] t.shapes = .ok () ↔
      (t.shapes.map (·.visitMethodSnake)).Nodup := by
    rw [checkVisitMethods_eq_ok_iff]
    simp
  have hreports : ∀ e, checkVisitMethods [] t.shapes = .error e →
      ∃ first second, FirstCollision t.shapes first second ∧
        e = .collision second.visitMethodSnake first.name second.name .rust := by
    intro e herror
    have howners : Owners [] [] := fun _ => rfl
    exact firstCollision_of_checkVisitMethods_eq_error howners List.nodup_nil herror
  refine ⟨hok, fun e => ⟨hreports e, ?_⟩⟩
  rintro ⟨first, second, hfirst, rfl⟩
  cases hcheck : checkVisitMethods [] t.shapes with
  | ok => exact absurd (hok.mp hcheck) hfirst.not_nodup
  | error e =>
      -- Some collision is reported, and there is only one that is first.
      obtain ⟨first', second', hfirst', rfl⟩ := hreports e hcheck
      obtain ⟨rfl, rfl⟩ := hfirst.unique hfirst'
      rfl

/-- `ABC` and `Abc` collide before the two outer shapes do. -/
example :
    checkVisitMethods [] (["XYZ", "ABC", "Abc", "Xyz"].map fun name =>
      Shape.resolve "Expr" ⟨name, []⟩) =
    .error (.collision "visit_abc_expr" "ABC" "Abc" .rust) := by
  decide +kernel

/-- **Shapes in camel case never collide.**  Distinct names in camel case get distinct visit methods
in snake case, whatever the base type, and so the check of visit methods passes every table whose
shapes have such names. -/
theorem checkVisitMethods_of_isCamelCase (t : Table)
    (hdistinct : (t.shapes.toList.map (·.name)).Nodup)
    (hcamel : ∀ s ∈ t.shapes.toList, IsCamelCase s.name.toList) :
    checkVisitMethods [] t.resolve.shapes = .ok () ∧
      ∀ name name' : String, IsCamelCase name.toList → IsCamelCase name'.toList →
        toSnakeCase (visitMethodName name t.base) = toSnakeCase (visitMethodName name' t.base) →
        name = name' := by
  refine ⟨checkVisitMethods_eq_ok_iff.mpr ⟨by simp, ?_⟩,
    fun _ _ => eq_of_toSnakeCase_visitMethodName⟩
  rw [Table.resolve, List.map_map]
  refine List.pairwise_map.mpr ((List.pairwise_map.mp hdistinct).imp_of_mem ?_)
  intro s s' hs hs' hne heq
  exact hne (eq_of_toSnakeCase_visitMethodName (hcamel s hs) (hcamel s' hs') heq)

/-- One name is made of the other two, and the base type starts as one of them. -/
def nestedNames : Table :=
  ["Ab", "AbC1", "C1"].foldl (fun t name => t.addShape ⟨name, []⟩) (Table.empty "C1_Expr")

theorem checkVisitMethods_of_isCamelCase_nestedNames :
    checkVisitMethods [] nestedNames.resolve.shapes = .ok () ∧
      toSnakeCase (visitMethodName "AbC1" "C1_Expr") ≠
        toSnakeCase (visitMethodName "Ab" "C1_Expr") := by
  have hAb : IsCamelWord ['A', 'b'] :=
    ⟨'A', ['b'], rfl, by decide, nofun, List.forall_mem_singleton.mpr (by decide)⟩
  have hC1 : IsCamelWord ['C', '1'] :=
    ⟨'C', ['1'], rfl, by decide, nofun, List.forall_mem_singleton.mpr (by decide)⟩
  have hword : IsCamelCase "Ab".toList := ⟨[['A', 'b']], nofun, rfl, by simpa using hAb⟩
  have hwords : IsCamelCase "AbC1".toList :=
    ⟨[['A', 'b'], ['C', '1']], nofun, rfl, by simpa using ⟨hAb, hC1⟩⟩
  have hcamel : ∀ s ∈ nestedNames.shapes.toList, IsCamelCase s.name.toList := by
    simp only [nestedNames, Table.addShape, Table.empty, List.foldl_cons, List.foldl_nil]
    simpa using ⟨hword, hwords, ⟨[['C', '1']], nofun, rfl, by simpa using hC1⟩⟩
  obtain ⟨hcheck, hinjective⟩ :=
    checkVisitMethods_of_isCamelCase nestedNames (by decide) hcamel
  exact ⟨hcheck, fun heq => absurd (hinjective _ _ hwords hword heq) (by decide)⟩

end TaggedUnion

end AstForge
