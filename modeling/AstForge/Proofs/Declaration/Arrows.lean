import AstForge.Proofs.Table.RoundTrip

/-!
# Declarations — brackets and arrows

Commas inside brackets belong to a type.  The reader of a field list counts brackets, and counts the
`>` of an arrow `->` as one that closes: it knows three kinds of closing bracket by one character
each.

A type is *well nested* (`WellNested`) when its brackets pair up once arrows are set apart, and
every comma stands inside some pair.

* `depthAfter_le_of_nesting`: in such a type the count never exceeds the brackets that are open, so
  every type ends outside brackets.
* `le_depthAfter_iff`: the count is what the closing brackets leave of the opening ones, from where
  they leave most.
* `Shape.parse_printed_iff`: printed fields of well-nested types are read back exactly when at every
  comma the opening brackets of some stretch before it outnumber the closing ones and the arrows.
  No arrow inside brackets is enough for that.
* `arrowField_cut`: a field that is cut in two at a comma inside brackets.
-/

namespace AstForge

open Text

/-! ### Nesting -/

/-- Whether `c` opens a bracket. -/
def isOpening (c : Char) : Bool :=
  c == '<' || c == '(' || c == '['

/-- Whether `c` closes a bracket. -/
def isClosing (c : Char) : Bool :=
  c == '>' || c == ')' || c == ']'

/-- The bracket that closes the bracket `c`. -/
def closer (c : Char) : Char :=
  if c == '<' then '>' else if c == '(' then ')' else ']'

/-- A place in a type: the brackets that have to close, innermost first, and whether a `-` stands
directly before, so that a `>` would end an arrow. -/
structure Nesting where
  closers : List Char
  dash : Bool
  deriving DecidableEq

/-- The place after `c`.  There is none after a bracket that does not close the innermost one, and
after a comma outside brackets. -/
def Nesting.next (n : Nesting) (c : Char) : Option Nesting :=
  if isOpening c then some ⟨closer c :: n.closers, false⟩
  else if isClosing c && !(c == '>' && n.dash) then
    match n.closers with
    | [] => none
    | k :: rest => if k = c then some ⟨rest, false⟩ else none
  else if c == ',' && n.closers.isEmpty then none
  else some ⟨n.closers, c == '-'⟩

/-- The place after `cs`. -/
def Nesting.after (n : Nesting) : List Char → Option Nesting
  | [] => some n
  | c :: cs => (n.next c).bind (·.after cs)

/-- The place where a type starts. -/
def Nesting.start : Nesting := ⟨[], false⟩

/-- The brackets of `cs` pair up, arrows set apart, and every comma stands inside a pair. -/
def WellNested (cs : List Char) : Prop :=
  (Nesting.start.after cs).any (·.closers.isEmpty)

instance (cs : List Char) : Decidable (WellNested cs) :=
  inferInstanceAs (Decidable ((Nesting.start.after cs).any (·.closers.isEmpty) = true))

/-- Every arrow of `cs` stands outside brackets. -/
def ArrowsOutside (cs : List Char) : Prop :=
  ∀ k < cs.length, ['-', '>'] <+: cs.drop k → WellNested (cs.take k)

instance (cs : List Char) : Decidable (ArrowsOutside cs) :=
  inferInstanceAs (Decidable (∀ k < cs.length, _ → _))

/-- Before each comma of `cs` there is a stretch that opens more brackets than it closes, if an
arrow closes one. -/
def CommasKept (cs : List Char) : Prop :=
  ∀ before after, cs = before ++ ',' :: after →
    ∃ w, w <:+ before ∧ w.countP isClosing < w.countP isOpening

namespace Nesting

/-- **What a character does**: it opens a bracket, closes the innermost one, ends an arrow, or
leaves the brackets as they are. -/
theorem next_eq_some {n m : Nesting} {c : Char} (h : n.next c = some m) :
    (isOpening c ∧ m = ⟨closer c :: n.closers, false⟩) ∨
      (isOpening c = false ∧ isClosing c ∧ n.closers = c :: m.closers ∧ m.dash = false) ∨
      (c = '>' ∧ n.dash ∧ m = ⟨n.closers, false⟩) ∨
      (isOpening c = false ∧ isClosing c = false ∧ (c = ',' → n.closers ≠ []) ∧
        m = ⟨n.closers, c == '-'⟩) := by
  rw [next] at h
  split at h
  · next hopen =>
      obtain rfl := Option.some.inj h
      exact .inl ⟨hopen, rfl⟩
  · next hopen =>
      rw [Bool.not_eq_true] at hopen
      split at h
      · next hclose =>
          rw [Bool.and_eq_true] at hclose
          split at h
          · cases h
          · next k rest hclosers =>
              split at h
              · next heq =>
                  obtain rfl := Option.some.inj h
                  exact .inr (.inl ⟨hopen, hclose.1, by rw [hclosers, heq], rfl⟩)
              · cases h
      · next hclose =>
          split at h
          · cases h
          · next hcomma =>
              obtain rfl := Option.some.inj h
              by_cases harrow : c = '>' ∧ n.dash
              · obtain ⟨rfl, hdash⟩ := harrow
                exact .inr (.inr (.inl ⟨rfl, hdash, rfl⟩))
              · refine .inr (.inr (.inr ⟨hopen, ?_, by simpa using hcomma, rfl⟩))
                simp_all

/-- A character that is no bracket. -/
theorem next_eq_some_of_not {n m : Nesting} {c : Char} (h : n.next c = some m)
    (ho : isOpening c = false) (hc : isClosing c = false) :
    m.closers = n.closers ∧ (c = ',' → n.closers ≠ []) := by
  rcases next_eq_some h with ⟨hopen, -⟩ | ⟨-, hclose, -⟩ | ⟨rfl, -⟩ | ⟨-, -, hcomma, rfl⟩
  · exact absurd (ho.symm.trans hopen) (by decide)
  · exact absurd (hc.symm.trans hclose) (by decide)
  · exact absurd hc (by decide)
  · exact ⟨rfl, hcomma⟩

/-- Only a `-` is followed by a place that says so. -/
theorem eq_dash_of_next {n m : Nesting} {c : Char} (h : n.next c = some m) (hdash : m.dash) :
    c = '-' := by
  rcases next_eq_some h with ⟨-, rfl⟩ | ⟨-, -, -, hm⟩ | ⟨-, -, rfl⟩ | ⟨-, -, -, rfl⟩
  · cases hdash
  · exact absurd (hm.symm.trans hdash) (by decide)
  · cases hdash
  · simpa using hdash

theorem after_append (n : Nesting) (cs ds : List Char) :
    n.after (cs ++ ds) = (n.after cs).bind (·.after ds) := by
  induction cs generalizing n with
  | nil => rfl
  | cons c cs ih =>
      rw [List.cons_append, after, after, Option.bind_assoc]
      exact Option.bind_congr fun m _ => ih m

theorem after_concat_eq_some {n m : Nesting} {cs : List Char} {c : Char}
    (h : n.after (cs ++ [c]) = some m) : ∃ k, n.after cs = some k ∧ k.next c = some m := by
  rw [after_append, Option.bind_eq_some_iff] at h
  obtain ⟨k, hk, h⟩ := h
  rw [after, Option.bind_eq_some_iff] at h
  obtain ⟨l, hl, h⟩ := h
  obtain rfl := Option.some.inj h
  exact ⟨k, hk, hl⟩

/-- Where a `-` stands directly before, the same brackets are open as before the `-`. -/
theorem exists_of_dash {cs : List Char} {m : Nesting} (h : start.after cs = some m)
    (hdash : m.dash) :
    ∃ before n, cs = before ++ ['-'] ∧ start.after before = some n ∧ m.closers = n.closers := by
  rcases cs.eq_nil_or_concat' with rfl | ⟨before, c, rfl⟩
  · obtain rfl := Option.some.inj h
    cases hdash
  · obtain ⟨n, hn, hnext⟩ := after_concat_eq_some h
    obtain rfl := eq_dash_of_next hnext hdash
    exact ⟨before, n, rfl, hn, (next_eq_some_of_not hnext (by decide) (by decide)).1⟩

end Nesting

/-- A text is well nested when it leads to a place where no bracket is open. -/
theorem wellNested_iff {cs : List Char} :
    WellNested cs ↔ ∃ n, Nesting.start.after cs = some n ∧ n.closers = [] := by
  simp [WellNested, Option.any_eq_true]

/-- The brackets that are open at a comma of a well-nested type. -/
theorem WellNested.exists_nesting_comma {before after : List Char}
    (h : WellNested (before ++ ',' :: after)) :
    ∃ n, Nesting.start.after before = some n ∧ n.closers ≠ [] := by
  obtain ⟨m, hm, -⟩ := wellNested_iff.mp h
  rw [Nesting.after_append, Option.bind_eq_some_iff] at hm
  obtain ⟨n, hn, hm⟩ := hm
  rw [Nesting.after, Option.bind_eq_some_iff] at hm
  obtain ⟨k, hk, -⟩ := hm
  exact ⟨n, hn, (Nesting.next_eq_some_of_not hk (by decide) (by decide)).2 rfl⟩

/-! ### The count of the reader -/

theorem bracketDepth_of_isOpening {c : Char} (h : isOpening c) (depth : Nat) :
    bracketDepth depth c = depth + 1 :=
  if_pos h

theorem bracketDepth_of_isClosing {c : Char} (ho : isOpening c = false) (hc : isClosing c)
    (depth : Nat) : bracketDepth depth c = depth - 1 := by
  rw [bracketDepth, if_neg (by simpa [isOpening] using ho)]
  exact if_pos hc

theorem bracketDepth_of_not {c : Char} (ho : isOpening c = false) (hc : isClosing c = false)
    (depth : Nat) : bracketDepth depth c = depth := by
  rw [bracketDepth, if_neg (by simpa [isOpening] using ho)]
  exact if_neg (by simpa [isClosing] using hc)

theorem depthAfter_concat (depth : Nat) (cs : List Char) (c : Char) :
    depthAfter depth (cs ++ [c]) = bracketDepth (depthAfter depth cs) c := by
  rw [depthAfter_append]
  rfl

/-- One character: the count stays at or below the brackets that are open, since only arrows make a
difference. -/
theorem bracketDepth_le_of_next {n m : Nesting} {c : Char} (h : n.next c = some m) {depth : Nat}
    (hdepth : depth ≤ n.closers.length) : bracketDepth depth c ≤ m.closers.length := by
  rcases Nesting.next_eq_some h with ⟨ho, rfl⟩ | ⟨ho, hc, hn, -⟩ | ⟨rfl, -, rfl⟩ | ⟨ho, hc, -, rfl⟩
  · rw [bracketDepth_of_isOpening ho]
    exact Nat.succ_le_succ hdepth
  · rw [bracketDepth_of_isClosing ho hc]
    rw [hn] at hdepth
    exact Nat.sub_le_of_le_add hdepth
  · rw [bracketDepth_of_isClosing (by decide) (by decide)]
    exact (Nat.sub_le _ _).trans hdepth
  · rw [bracketDepth_of_not ho hc]
    exact hdepth

/-- **A whole text**: the count stays at or below the brackets that are open. -/
theorem depthAfter_le_of_nesting {n m : Nesting} {cs : List Char} (h : n.after cs = some m)
    {depth : Nat} (hdepth : depth ≤ n.closers.length) :
    depthAfter depth cs ≤ m.closers.length := by
  induction cs generalizing n depth with
  | nil =>
      obtain rfl := Option.some.inj h
      exact hdepth
  | cons c cs ih =>
      rw [Nesting.after, Option.bind_eq_some_iff] at h
      obtain ⟨k, hk, h⟩ := h
      exact ih h (bracketDepth_le_of_next hk hdepth)

/-- A well-nested type ends outside brackets. -/
theorem WellNested.depthAfter_eq_zero {cs : List Char} (h : WellNested cs) :
    depthAfter 0 cs = 0 := by
  obtain ⟨n, hn, hclosers⟩ := wellNested_iff.mp h
  have hle := depthAfter_le_of_nesting hn (Nat.zero_le _)
  rw [hclosers] at hle
  exact Nat.le_zero.mp hle

/-- Without arrows inside brackets the count is the number of brackets that are open. -/
theorem ArrowsOutside.depthAfter_eq {cs : List Char} (h : ArrowsOutside cs) {p : List Char}
    (hp : p <+: cs) {n : Nesting} (hn : Nesting.start.after p = some n) :
    depthAfter 0 p = n.closers.length := by
  induction p using List.reverseRecOn generalizing n with
  | nil =>
      obtain rfl := Option.some.inj hn
      rfl
  | append_singleton p c ih =>
      obtain ⟨k, hk, hnext⟩ := Nesting.after_concat_eq_some hn
      have hdepth := ih ((List.prefix_append p [c]).trans hp) hk
      rw [depthAfter_concat, hdepth]
      rcases Nesting.next_eq_some hnext with
        ⟨ho, rfl⟩ | ⟨ho, hc, hm, -⟩ | ⟨rfl, hdash, rfl⟩ | ⟨ho, hc, -, rfl⟩
      · rw [bracketDepth_of_isOpening ho, List.length_cons]
      · rw [bracketDepth_of_isClosing ho hc, hm, List.length_cons, Nat.add_sub_cancel]
      · -- The arrow starts one character earlier, where no bracket is open.
        obtain ⟨before, l, rfl, hl, hkl⟩ := Nesting.exists_of_dash hk hdash
        obtain ⟨rest, rfl⟩ := hp
        have hbefore := h before.length (by simp) (by simp)
        rw [List.append_assoc, List.append_assoc, List.take_left] at hbefore
        obtain ⟨l', hl', hempty⟩ := wellNested_iff.mp hbefore
        obtain rfl := Option.some.inj (hl.symm.trans hl')
        rw [hkl, hempty]
        rfl
      · rw [bracketDepth_of_not ho hc]

theorem isClosing_of_isOpening {c : Char} (h : isOpening c) : isClosing c = false := by
  simp only [isOpening, Bool.or_eq_true, beq_iff_eq] at h
  rcases h with (rfl | rfl) | rfl <;> rfl

/-- A stretch in which opening brackets prevail is not empty, so it ends with the last character. -/
theorem exists_stretch_concat {cs : List Char} {c : Char} {k : Nat} :
    (∃ w, w <:+ cs ++ [c] ∧ w.countP isClosing + (k + 1) ≤ w.countP isOpening) ↔
      ∃ w, w <:+ cs ∧
        w.countP isClosing + (if isClosing c then 1 else 0) + (k + 1) ≤
          w.countP isOpening + (if isOpening c then 1 else 0) := by
  constructor
  · rintro ⟨w, hw, hcount⟩
    rcases List.suffix_concat_iff.mp hw with rfl | ⟨v, rfl, hv⟩
    · exact absurd hcount (by simp)
    · rw [List.countP_append, List.countP_append, List.countP_singleton,
        List.countP_singleton] at hcount
      exact ⟨v, hv, hcount⟩
  · rintro ⟨v, hv, hcount⟩
    refine ⟨v ++ [c], List.suffix_concat_iff.mpr (.inr ⟨v, rfl, hv⟩), ?_⟩
    rw [List.countP_append, List.countP_append, List.countP_singleton, List.countP_singleton]
    exact hcount

/-- **The count**: it reaches `k` exactly when the opening brackets of some stretch up to the end
outnumber the closing ones by `k`. -/
theorem le_depthAfter_iff {cs : List Char} {k : Nat} :
    k ≤ depthAfter 0 cs ↔ ∃ w, w <:+ cs ∧ w.countP isClosing + k ≤ w.countP isOpening := by
  induction cs using List.reverseRecOn generalizing k with
  | nil => simp [depthAfter]
  | append_singleton cs c ih =>
      cases k with
      | zero => exact ⟨fun _ => ⟨[], List.nil_suffix, le_rfl⟩, fun _ => Nat.zero_le _⟩
      | succ k =>
          rw [depthAfter_concat, exists_stretch_concat]
          cases ho : isOpening c with
          | true =>
              rw [bracketDepth_of_isOpening ho, Nat.succ_le_succ_iff, ih, isClosing_of_isOpening ho]
              exact exists_congr fun w => and_congr_right fun _ => Nat.succ_le_succ_iff.symm
          | false =>
              cases hc : isClosing c with
              | true =>
                  have hsub : k + 1 ≤ depthAfter 0 cs - 1 ↔ 1 + (k + 1) ≤ depthAfter 0 cs := by
                    omega
                  rw [bracketDepth_of_isClosing ho hc, hsub, ih]
                  exact exists_congr fun w => and_congr_right fun _ => by rw [Nat.add_assoc]; rfl
              | false =>
                  rw [bracketDepth_of_not ho hc, ih]
                  exact Iff.rfl

/-- The count spares a comma exactly when the brackets before it do. -/
theorem sealed_iff_commasKept {cs : List Char} : Sealed 0 cs ↔ CommasKept cs :=
  forall₃_congr fun _ _ _ => Nat.one_le_iff_ne_zero.symm.trans le_depthAfter_iff

/-! ### Printed fields -/

/-- Arrows outside brackets spoil no comma. -/
theorem WellNested.commasKept {cs : List Char} (h : WellNested cs) (harrows : ArrowsOutside cs) :
    CommasKept cs := by
  refine sealed_iff_commasKept.mp ?_
  rintro before after rfl
  obtain ⟨n, hn, hopen⟩ := h.exists_nesting_comma
  rw [harrows.depthAfter_eq (List.prefix_append _ _) hn]
  exact mt List.length_eq_zero_iff.mp hopen

/-- **Printed fields of well-nested types** are read back exactly when no arrow hides the bracket
around a comma; where every arrow stands outside brackets, none does. -/
theorem Shape.parse_printed_iff {name : String} (hname : ':' ∉ name.toList) {fields : List Field}
    (hreadable : ∀ f ∈ fields, f.Readable) (hnested : ∀ f ∈ fields, WellNested f.type.toList) :
    (Shape.parse (name ++ " : " ++ ", ".intercalate (fields.map Field.render)) =
        .ok ⟨String.ofList (trim name.toList), fields⟩ ↔
      ∀ f ∈ fields, CommasKept f.type.toList) ∧
    ∀ f ∈ fields, ArrowsOutside f.type.toList → CommasKept f.type.toList := by
  refine ⟨?_, fun f hf harrows => (hnested f hf).commasKept harrows⟩
  have htext : (name ++ " : " ++ ", ".intercalate (fields.map Field.render)).toList =
      (name.toList ++ [' ']) ++ ':' :: ' ' ::
        [',', ' '].intercalate (fields.map fun f => f.render.toList) := by
    simp [String.toList_intercalate, Function.comp_def]
  rw [Shape.parse, htext, Shape.ofChars_eq_ok_iff]
  constructor
  · rintro ⟨hwf, -⟩ f hf
    exact sealed_iff_commasKept.mp (hwf.commas f hf)
  · intro hkept
    have hcolon : ':' ∉ name.toList ++ [' '] := by
      simpa using hname
    refine ⟨⟨hreadable, fun f hf => sealed_iff_commasKept.mpr (hkept f hf), fun f hf => ?_⟩,
      _, _, rfl, hcolon, ?_, (fieldsWrittenAs_render fields).cons_blank (by decide)⟩
    · exact (hnested f (List.dropLast_subset _ hf)).depthAfter_eq_zero
    · rw [trim_append_space, String.toList_ofList]

instance (f : Field) : Decidable f.Readable :=
  decidable_of_iff
    (isIdentifier f.identifier.toList ∧ f.type.toList ≠ [] ∧ trim f.type.toList = f.type.toList)
    ⟨fun h => ⟨h.1, h.2.1, trimmed_iff.mpr h.2.2⟩,
      fun h => ⟨h.isIdentifier, h.type_ne_nil, trimmed_iff.mp h.trimmed⟩⟩

/-- An arrow outside brackets, and one that leaves a bracket around its comma. -/
def arrowFields : List Field :=
  [⟨"fn(A, B) -> C", "callee"⟩, ⟨"Box<(fn(A) -> B, C)>", "pair"⟩]

theorem arrowFields_read :
    ':' ∉ "Call".toList ∧ (∀ f ∈ arrowFields, f.Readable) ∧
      (∀ f ∈ arrowFields, WellNested f.type.toList) ∧
      Shape.parse "Call : fn(A, B) -> C callee, Box<(fn(A) -> B, C)> pair" =
        .ok ⟨"Call", arrowFields⟩ ∧
      (∀ f ∈ arrowFields, CommasKept f.type.toList) ∧
      ArrowsOutside "fn(A, B) -> C".toList := by
  have hname : ':' ∉ "Call".toList := by decide
  have hreadable : ∀ f ∈ arrowFields, f.Readable := by decide
  have hnested : ∀ f ∈ arrowFields, WellNested f.type.toList := by decide
  have hiff := Shape.parse_printed_iff hname hreadable hnested
  have hread : Shape.parse "Call : fn(A, B) -> C callee, Box<(fn(A) -> B, C)> pair" =
      .ok ⟨"Call", arrowFields⟩ := by
    decide
  exact ⟨hname, hreadable, hnested, hread, hiff.1.mp hread, by decide⟩

/-- **An arrow inside brackets** takes the bracket of a map away, and the comma between key and
value cuts the field in two. -/
theorem arrowField_cut :
    Field.Readable ⟨"Map<fn(A) -> B, C>", "f"⟩ ∧ WellNested "Map<fn(A) -> B, C>".toList ∧
      Shape.parse "Name : Map<fn(A) -> B, C> f" =
        .ok ⟨"Name", [⟨"Map<fn(A) ->", "B"⟩, ⟨"C>", "f"⟩]⟩ :=
  ⟨by decide, by decide, by decide⟩

end AstForge
