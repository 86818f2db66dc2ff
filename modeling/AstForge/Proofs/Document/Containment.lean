import Mathlib.Data.Finset.Card
import Mathlib.Logic.Relation
import AstForge.Proofs.Document.TemplateNames

/-!
# Documents — which types hold which by value

A type of a tagged union has a size only if it does not hold itself by value.  The base type holds
every shape, and a structure holds each declared type that is the whole type of one of its fields as
the structure stores it (`Table.Holds`).

Fields of the base type are boxed, and no other field is.

* `Table.not_holds_base`: so nothing holds the base type.
* `Table.holds_acyclic_iff`: but shapes and data types may still hold each other in a circle.  None
  does exactly when the declarations can be listed with every declaration after those it holds
  (`HeldFirst`).
* `chainTable_holds_itself`: a table that is written and has a structure that holds itself.
-/

namespace AstForge

open Relation Text

/-- `x` holds `y` by value: `x` is the base type and `y` a shape, or `x` is declared with a field
that is stored with the declared type `y`. -/
inductive Table.Holds (t : Table) : String → String → Prop
  | variant {s : Shape} (hs : s ∈ t.shapes.toList) : Holds t t.base s.name
  | field {d : Shape} {f : Field} {y : String} (hd : d ∈ t.declaredShapes) (hf : f ∈ d.fields)
      (hstored : TaggedUnion.storedType t.base (f.resolve t.base) = y) (hy : y ∈ t.typeNames) :
      Holds t d.name y

/-- No field has the name of its own declaration or of a later one as its type. -/
def HeldFirst : List Shape → Prop
  | [] => True
  | d :: ds => (∀ f ∈ d.fields, f.type ∉ (d :: ds).map (·.name)) ∧ HeldFirst ds

instance HeldFirst.decidable : (ds : List Shape) → Decidable (HeldFirst ds)
  | [] => .isTrue trivial
  | d :: ds =>
    have := HeldFirst.decidable ds
    inferInstanceAs
      (Decidable ((∀ f ∈ d.fields, f.type ∉ (d :: ds).map (·.name)) ∧ HeldFirst ds))

/-! ### Circles and ranks -/

/-- A relation into finitely many names that has no circle lowers some rank: the number of names
that can be reached. -/
theorem exists_rank_of_acyclic {r : String → String → Prop} {names : List String}
    (hnames : ∀ x y, r x y → y ∈ names) (hacyclic : ∀ x, ¬ TransGen r x x) :
    ∃ rank : String → Nat, ∀ x y, r x y → rank y < rank x := by
  classical
  refine ⟨fun x => (names.toFinset.filter (TransGen r x)).card, fun x y h => ?_⟩
  refine Finset.card_lt_card (Finset.ssubset_iff_of_subset ?_ |>.mpr ⟨y, ?_, ?_⟩)
  · intro z hz
    rw [Finset.mem_filter] at hz ⊢
    exact ⟨hz.1, hz.2.head h⟩
  · rw [Finset.mem_filter, List.mem_toFinset]
    exact ⟨hnames x y h, .single h⟩
  · rw [Finset.mem_filter]
    exact fun hy => hacyclic y hy.2

/-- A relation that goes down in some rank has no cycle. -/
theorem not_transGen_of_rank {r : String → String → Prop} (rank : String → Nat)
    (h : ∀ x y, r x y → rank y < rank x) (x : String) : ¬ TransGen r x x := by
  have hlt : ∀ {y z}, TransGen r y z → rank z < rank y := by
    intro y z hyz
    induction hyz with
    | single hr => exact h _ _ hr
    | tail _ hr ih => exact (h _ _ hr).trans ih
  exact fun hx => Nat.lt_irrefl _ (hlt hx)

/-! ### What boxing does -/

namespace Table

variable {t : Table}

/-- A boxed type is the name of no type. -/
theorem boxed_notMem_typeNames (ht : t.Valid) : "Box<" ++ t.base ++ ">" ∉ t.typeNames := by
  intro hmem
  have hword : IsWord ("Box<" ++ t.base ++ ">").toList := by
    rcases List.mem_cons.mp hmem with hbase | hmem
    · rw [hbase]
      exact isWord_of_isIdentifier ht.base
    · obtain ⟨d, hd, hname⟩ := List.mem_map.mp hmem
      rw [← hname]
      exact isWord_of_isIdentifier (ht.names d hd)
  exact hword.notMem (c := '<') (by decide) (by simp)

/-- **Boxing.**  A field is stored with a declared type exactly when its own type is the name of a
shape or a data type. -/
theorem storedType_mem_iff (ht : t.Valid) {f : Field} {y : String} :
    TaggedUnion.storedType t.base (f.resolve t.base) = y ∧ y ∈ t.typeNames ↔
      f.type = y ∧ y ∈ t.declaredShapes.map (·.name) := by
  by_cases hbase : f.type = t.base
  · have hstored : TaggedUnion.storedType t.base (f.resolve t.base) = "Box<" ++ t.base ++ ">" :=
      if_pos (beq_iff_eq.mpr hbase)
    rw [hstored]
    constructor
    · rintro ⟨rfl, hmem⟩
      exact absurd hmem (boxed_notMem_typeNames ht)
    · rintro ⟨rfl, hmem⟩
      rw [hbase] at hmem
      exact absurd hmem ht.base_notMem
  · have hstored : TaggedUnion.storedType t.base (f.resolve t.base) = f.type :=
      if_neg (by simpa [Field.resolve] using hbase)
    rw [hstored]
    refine and_congr_right ?_
    rintro rfl
    exact ⟨fun hmem => (List.mem_cons.mp hmem).resolve_left hbase, List.mem_cons_of_mem _⟩

/-- Only shapes and data types are held. -/
theorem Holds.mem_names (ht : t.Valid) {x y : String} (h : t.Holds x y) :
    y ∈ t.declaredShapes.map (·.name) := by
  cases h with
  | variant hs => exact List.mem_map_of_mem (List.mem_append_left _ hs)
  | field _ _ hstored hy => exact ((storedType_mem_iff ht).mp ⟨hstored, hy⟩).2

/-- Nothing holds the base type by value. -/
theorem not_holds_base (ht : t.Valid) (x : String) : ¬ t.Holds x t.base :=
  fun h => ht.base_notMem (h.mem_names ht)

/-! ### Orders -/

/-- Declarations in the order of their rank come after those they hold. -/
theorem heldFirst_of_pairwise (rank : String → Nat) {ds : List Shape}
    (hrank : ∀ d ∈ ds, ∀ f ∈ d.fields, f.type ∈ ds.map (·.name) → rank f.type < rank d.name)
    (hsorted : ds.Pairwise fun d e => rank d.name ≤ rank e.name) : HeldFirst ds := by
  induction ds with
  | nil => trivial
  | cons d ds ih =>
      obtain ⟨hd, hsorted⟩ := List.pairwise_cons.mp hsorted
      refine ⟨fun f hf hmem => ?_, ih (fun e he f hf hmem => ?_) hsorted⟩
      · have hlt := hrank d List.mem_cons_self f hf hmem
        rcases List.mem_cons.mp hmem with hname | hmem
        · rw [hname] at hlt
          exact Nat.lt_irrefl _ hlt
        · obtain ⟨e, he, hname⟩ := List.mem_map.mp hmem
          have hle := hd e he
          rw [hname] at hle
          exact Nat.not_le_of_lt hlt hle
      · exact hrank e (List.mem_cons_of_mem _ he) f hf (List.mem_cons_of_mem _ hmem)

/-- In such an order a declaration stands behind those it holds. -/
theorem idxOf_lt_of_heldFirst {ds : List Shape} (h : HeldFirst ds)
    (hnodup : (ds.map (·.name)).Nodup) {d : Shape} (hd : d ∈ ds) {f : Field} (hf : f ∈ d.fields)
    (hmem : f.type ∈ ds.map (·.name)) :
    (ds.map (·.name)).idxOf f.type < (ds.map (·.name)).idxOf d.name := by
  induction ds with
  | nil => cases hd
  | cons e ds ih =>
      rw [List.map_cons, List.nodup_cons] at hnodup
      rcases List.mem_cons.mp hd with rfl | hd
      · exact absurd hmem (h.1 f hf)
      · have hne : e.name ≠ d.name := fun heq => hnodup.1 (heq ▸ List.mem_map_of_mem hd)
        rw [List.map_cons, List.idxOf_cons_ne _ hne]
        by_cases hfirst : e.name = f.type
        · rw [hfirst, List.idxOf_cons_self]
          exact Nat.succ_pos _
        · rw [List.idxOf_cons_ne _ hfirst]
          have hmem : f.type ∈ ds.map (·.name) :=
            (List.mem_cons.mp hmem).resolve_left fun heq => hfirst heq.symm
          exact Nat.succ_lt_succ (ih h.2 hnodup.2 hd hmem)

/-- Without a cycle, the declarations can be listed so that each comes after those that it holds. -/
theorem exists_heldFirst (ht : t.Valid) (h : ∀ x, ¬ TransGen t.Holds x x) :
    ∃ ds, ds.Perm t.declaredShapes ∧ HeldFirst ds := by
  obtain ⟨rank, hrank⟩ := exists_rank_of_acyclic (fun _ _ h => h.mem_names ht) h
  let le : Shape → Shape → Bool := fun d e => rank d.name ≤ rank e.name
  have hperm := t.declaredShapes.mergeSort_perm le
  have hsorted : (t.declaredShapes.mergeSort le).Pairwise fun d e => le d e := by
    refine List.pairwise_mergeSort (fun a b c hab hbc => ?_) (fun a b => ?_) _
    · simp only [le, decide_eq_true_eq] at hab hbc ⊢
      exact hab.trans hbc
    · simp only [le, Bool.or_eq_true, decide_eq_true_eq]
      exact Nat.le_total _ _
  refine ⟨_, hperm, heldFirst_of_pairwise rank (fun d hd f hf hmem => ?_) ?_⟩
  · have hmem := (hperm.map (·.name)).mem_iff.mp hmem
    obtain ⟨hstored, htype⟩ := (storedType_mem_iff ht).mpr ⟨rfl, hmem⟩
    exact hrank _ _ (.field (hperm.mem_iff.mp hd) hf hstored htype)
  · exact hsorted.imp fun h => of_decide_eq_true h

/-- A listing in which each declaration comes after those that it holds leaves no cycle. -/
theorem not_transGen_of_heldFirst (ht : t.Valid) {ds : List Shape}
    (hperm : ds.Perm t.declaredShapes) (hds : HeldFirst ds) (x : String) :
    ¬ TransGen t.Holds x x := by
  have hnames := hperm.map (·.name)
  refine not_transGen_of_rank (ds.map (·.name)).idxOf (fun x y h => ?_) x
  have hy := hnames.mem_iff.mpr (h.mem_names ht)
  cases h with
  | variant hs =>
      -- The base type is not listed, so it comes after everything that is.
      have hbase : t.base ∉ ds.map (·.name) := fun hm => ht.base_notMem (hnames.mem_iff.mp hm)
      rw [List.idxOf_eq_length_iff.mpr hbase]
      exact List.idxOf_lt_length_iff.mpr hy
  | field hd hf hstored hmem =>
      obtain ⟨rfl, -⟩ := (storedType_mem_iff ht).mp ⟨hstored, hmem⟩
      exact idxOf_lt_of_heldFirst hds (hnames.nodup_iff.mpr ht.nodup) (hperm.mem_iff.mpr hd) hf hy

/-- **Finite size**: in a table that was read nothing holds the base type.  No type holds itself,
directly or through others, exactly when the declarations can be listed so that no field has the
name of its own declaration or of a later one as its type. -/
theorem holds_acyclic_iff {base : String} {texts : List String}
    (ht : Table.ofDeclarations base texts = .ok t) :
    (∀ x, ¬ t.Holds x t.base) ∧
      ((∀ x, ¬ TransGen t.Holds x x) ↔ ∃ ds, ds.Perm t.declaredShapes ∧ HeldFirst ds) := by
  have hvalid := Table.validate_eq_ok_iff.mp (Table.wellFormed_of_ofDeclarations ht).valid
  refine ⟨not_holds_base hvalid, exists_heldFirst hvalid, ?_⟩
  rintro ⟨ds, hperm, hds⟩
  exact not_transGen_of_heldFirst hvalid hperm hds

end Table

/-- A table with a field of the base type, and data types that are declared after their first
use. -/
def argumentTable : Table :=
  (((Table.empty "Expr").addShape ⟨"Call", [⟨"Expr", "callee"⟩, ⟨"Arguments", "list"⟩]⟩).addDataType
    ⟨"Arguments", [⟨"Vec<Expr>", "items"⟩, ⟨"Span", "span"⟩]⟩).addDataType
    ⟨"Span", [⟨"u32", "start"⟩]⟩

theorem holds_acyclic_argumentTable :
    Table.ofDeclarations "Expr" ["Call : Expr callee, Arguments list",
        "struct Arguments : Vec<Expr> items, Span span", "struct Span : u32 start"] =
          .ok argumentTable ∧
      TaggedUnion.check argumentTable.resolve = .ok () ∧
      argumentTable.Holds "Call" "Arguments" ∧
      ∀ x, ¬ TransGen argumentTable.Holds x x := by
  have ht : Table.ofDeclarations "Expr" ["Call : Expr callee, Arguments list",
      "struct Arguments : Vec<Expr> items, Span span", "struct Span : u32 start"] =
        .ok argumentTable := rfl
  have hholds : argumentTable.Holds "Call" "Arguments" :=
    .field (d := ⟨"Call", [⟨"Expr", "callee"⟩, ⟨"Arguments", "list"⟩]⟩)
      (f := ⟨"Arguments", "list"⟩) (by decide) (by decide) rfl (by decide)
  have horder : HeldFirst argumentTable.declaredShapes.reverse := by decide
  exact ⟨ht, by decide +kernel, hholds, (Table.holds_acyclic_iff ht).2.mpr
    ⟨_, List.reverse_perm _, horder⟩⟩

/-- A table with a shape that has a field of its own type. -/
def chainTable : Table :=
  (Table.empty "Expr").addShape ⟨"Chain", [⟨"Chain", "next"⟩]⟩

/-- **Some structures hold themselves by value**, and so does the enumeration through them. -/
theorem chainTable_holds_itself :
    Table.ofDeclarations "Expr" ["Chain : Chain next"] = .ok chainTable ∧
      (∃ ls, Document.lines (Config.ofTarget .rust) chainTable.resolve = .ok ls ∧
        ⟨0, "pub struct Chain \x7b"⟩ ∈ ls ∧ ⟨1, "next: Chain,"⟩ ∈ ls) ∧
      chainTable.Holds "Expr" "Chain" ∧ TransGen chainTable.Holds "Chain" "Chain" := by
  refine ⟨rfl, ⟨_, Document.lines_eq_ok_iff.mpr ⟨by decide +kernel, rfl⟩, by decide +kernel⟩,
    .variant (s := ⟨"Chain", [⟨"Chain", "next"⟩]⟩) (by decide), .single ?_⟩
  exact .field (d := ⟨"Chain", [⟨"Chain", "next"⟩]⟩) (f := ⟨"Chain", "next"⟩) (by decide)
    (by decide) rfl (by decide)

end AstForge
