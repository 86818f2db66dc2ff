import AstForge.Proofs.Declaration.FieldText

/-!
# Declarations — the answer to every text

What reading the text of a shape answers, whatever the text.  Its first colon ends the name.  What
follows is cut into *segments* (`Segments`): the commas that join them are the commas outside
brackets, where the depth of brackets is counted from the start of the list and never goes below
zero.  Every segment has to be a field, and the leftmost one that is not is blamed.

* `commasApart_cons`: one segment and those after it, and `commasApart_iff_pieces`, all of them.
* `segments_iff`: a field list has one way to be cut, which is how it is cut.
* `Shape.parse_answers`: reading gives the answer that `Shape.Answers` describes.
-/

namespace AstForge

open Text

/-! ### Segments -/

/-- In the text that starts inside `depth` brackets and joins `ps` by commas, a comma has depth 0
before it if it joins two of them, and another depth if it stands in one of them. -/
structure CommasApart (depth : Nat) (ps : List (List Char)) : Prop where
  between : ∀ qs rs, ps = qs ++ rs → qs ≠ [] → rs ≠ [] →
    depthAfter depth ([','].intercalate qs) = 0
  within : ∀ qs before after rs, ps = qs ++ (before ++ ',' :: after) :: rs →
    depthAfter depth ([','].intercalate (qs ++ [before])) ≠ 0

/-- `ps` are the segments of `cs` between its commas outside brackets. -/
structure Segments (cs : List Char) (ps : List (List Char)) : Prop where
  ne_nil : ps ≠ []
  joined : [','].intercalate ps = cs
  commas : CommasApart 0 ps

/-- A segment that ends outside brackets can be left out of the count, with the comma after it. -/
theorem depthAfter_intercalate_cons {depth : Nat} {p : List Char} {ps : List (List Char)}
    (hp : depthAfter depth p = 0) (hne : ps ≠ []) :
    depthAfter depth ([','].intercalate (p :: ps)) = depthAfter 0 ([','].intercalate ps) := by
  rw [List.intercalate_cons_of_ne_nil hne, depthAfter_append, depthAfter_append, hp]
  rfl

theorem commasApart_singleton {depth : Nat} {p : List Char} :
    CommasApart depth [p] ↔ Sealed depth p := by
  constructor
  · intro h before after hp
    simpa using h.within [] before after [] (by rw [hp]; rfl)
  · intro h
    refine ⟨fun qs rs hps hqs hrs => ?_, fun qs before after rs hps => ?_⟩
    · rcases List.append_eq_singleton_iff.mp hps.symm with ⟨hnil, -⟩ | ⟨-, hnil⟩
      · exact absurd hnil hqs
      · exact absurd hnil hrs
    · rcases List.append_eq_singleton_iff.mp hps.symm with ⟨rfl, hp⟩ | ⟨-, hnil⟩
      · obtain ⟨hp, -⟩ := List.cons.inj hp
        simpa using h before after hp.symm
      · cases hnil

/-- **One segment** and those after it: it ends outside brackets, so the depth starts again at 0. -/
theorem commasApart_cons {depth : Nat} {p : List Char} {ps : List (List Char)} (hne : ps ≠ []) :
    CommasApart depth (p :: ps) ↔ Sealed depth p ∧ depthAfter depth p = 0 ∧ CommasApart 0 ps := by
  constructor
  · intro h
    have hp : depthAfter depth p = 0 := by
      simpa using h.between [p] ps rfl (by simp) hne
    refine ⟨fun before after hsplit => ?_, hp, fun qs rs hps hqs hrs => ?_,
      fun qs before after rs hps => ?_⟩
    · simpa using h.within [] before after ps (by rw [hsplit]; rfl)
    · rw [← depthAfter_intercalate_cons hp hqs]
      exact h.between (p :: qs) rs (by rw [hps]; rfl) (by simp) hrs
    · rw [← depthAfter_intercalate_cons hp (by simp)]
      exact h.within (p :: qs) before after rs (by rw [hps]; rfl)
  · rintro ⟨hsealed, hp, h⟩
    refine ⟨fun qs rs hps hqs hrs => ?_, fun qs before after rs hps => ?_⟩
    · cases qs with
      | nil => exact absurd rfl hqs
      | cons q qs =>
          obtain ⟨rfl, htail⟩ := List.cons.inj hps
          by_cases hnil : qs = []
          · simpa [hnil] using hp
          · rw [depthAfter_intercalate_cons hp hnil]
            exact h.between qs rs htail hnil hrs
    · cases qs with
      | nil =>
          obtain ⟨rfl, -⟩ := List.cons.inj hps
          simpa using hsealed before after rfl
      | cons q qs =>
          obtain ⟨rfl, htail⟩ := List.cons.inj hps
          rw [List.cons_append, depthAfter_intercalate_cons hp (by simp)]
          exact h.within qs before after rs htail

/-- **Segments are pieces**: the condition on all commas is one on each segment. -/
theorem commasApart_iff_pieces {depth : Nat} {ps : List (List Char)} (hne : ps ≠ []) :
    CommasApart depth ps ↔ Pieces depth ps := by
  induction ps generalizing depth with
  | nil => exact absurd rfl hne
  | cons p ps ih =>
      cases ps with
      | nil => exact commasApart_singleton
      | cons q ps => rw [commasApart_cons (by simp), Pieces, ih (by simp)]

/-- **A field list has one way to be cut**, which is how it is cut. -/
theorem segments_iff {cs : List Char} {ps : List (List Char)} :
    Segments cs ps ↔ ps = splitCommas 0 cs := by
  constructor
  · rintro ⟨hne, rfl, h⟩
    exact (splitCommas_intercalate ((commasApart_iff_pieces hne).mp h)).symm
  · rintro rfl
    have hne := splitCommas_ne_nil 0 cs
    exact ⟨hne, intercalate_splitCommas 0 cs,
      (commasApart_iff_pieces hne).mpr (pieces_splitCommas 0 cs)⟩

/-! ### Shapes -/

/-- What reading the text `cs` of a shape answers. -/
inductive Shape.Answers (cs : List Char) : Except ReadError Shape → Prop where
  /-- There is no colon. -/
  | noColon (hcolon : ':' ∉ cs) :
      Shape.Answers cs (.error (.malformedShape (String.ofList (trim cs))))
  /-- Only blanks follow the first colon. -/
  | noFields {name : String} {before rest : List Char} (hcs : cs = before ++ ':' :: rest)
      (hbefore : ':' ∉ before) (hname : name = String.ofList (trim before))
      (hblank : ∀ c ∈ rest, isBlank c) :
      Shape.Answers cs (.ok ⟨name, []⟩)
  /-- Every segment after the first colon is a field. -/
  | fields {name : String} {before rest : List Char} {ps : List (List Char)} {fs : List Field}
      (hcs : cs = before ++ ':' :: rest) (hbefore : ':' ∉ before)
      (hname : name = String.ofList (trim before)) (hblank : ¬ ∀ c ∈ rest, isBlank c)
      (hps : Segments rest ps)
      (hfs : List.Forall₂ (fun p f => Field.parse name (String.ofList p) = .ok f) ps fs) :
      Shape.Answers cs (.ok ⟨name, fs⟩)
  /-- The segment `p` after the first colon is no field, and each one before it is. -/
  | badField {name : String} {before rest p : List Char} {qs rs : List (List Char)}
      (hcs : cs = before ++ ':' :: rest) (hbefore : ':' ∉ before)
      (hname : name = String.ofList (trim before)) (hblank : ¬ ∀ c ∈ rest, isBlank c)
      (hps : Segments rest (qs ++ p :: rs))
      (hqs : ∀ q ∈ qs, ∃ f, Field.parse name (String.ofList q) = .ok f)
      (hp : ∀ f, Field.parse name (String.ofList p) ≠ .ok f) :
      Shape.Answers cs (.error (.malformedField name (String.ofList (trim p))))

theorem Field.parse_ofList (shape : String) (cs : List Char) :
    Field.parse shape (String.ofList cs) = Field.ofChars shape cs := by
  rw [Field.parse, String.toList_ofList]

/-- Each answer is the one that reading gives. -/
theorem Shape.ofChars_of_answers {cs : List Char} {r : Except ReadError Shape}
    (h : Shape.Answers cs r) : Shape.ofChars cs = r := by
  cases h with
  | noColon hcolon => exact Shape.ofChars_of_noColon hcolon
  | noFields hcs hbefore hname hblank =>
      rw [hcs, hname, Shape.ofChars_append_colon hbefore, splitFields_of_blank hblank]
      rfl
  | fields hcs hbefore hname hblank hps hfs =>
      simp only [Field.parse_ofList] at hfs
      rw [hcs, Shape.ofChars_append_colon hbefore, splitFields_of_not_blank hblank,
        ← segments_iff.mp hps, ← hname, mapM_eq_ok_iff.mpr hfs]
      rfl
  | @badField name before rest p qs rs hcs hbefore hname hblank hps hqs hp =>
      simp only [Field.parse_ofList] at hqs hp
      have herror := mapM_eq_error_iff.mpr ⟨qs, p, rs, rfl, hqs, Field.ofChars_eq_error hp⟩
      rw [hcs, Shape.ofChars_append_colon hbefore, splitFields_of_not_blank hblank,
        ← segments_iff.mp hps, ← hname, herror]
      rfl

/-- Reading always answers in one of the four ways. -/
theorem Shape.answers_ofChars (cs : List Char) : Shape.Answers cs (Shape.ofChars cs) := by
  by_cases hcolon : ':' ∈ cs
  · obtain ⟨before, rest, rfl, hbefore⟩ := List.eq_append_cons_of_mem hcolon
    rw [Shape.ofChars_append_colon hbefore]
    by_cases hblank : ∀ c ∈ rest, isBlank c
    · rw [splitFields_of_blank hblank]
      exact .noFields rfl hbefore rfl hblank
    · rw [splitFields_of_not_blank hblank]
      have hps : Segments rest (splitCommas 0 rest) := segments_iff.mpr rfl
      cases hread : (splitCommas 0 rest).mapM (Field.ofChars (String.ofList (trim before))) with
      | ok fs =>
          refine .fields rfl hbefore rfl hblank hps ?_
          simp only [Field.parse_ofList]
          exact mapM_eq_ok_iff.mp hread
      | error e =>
          obtain ⟨qs, p, rs, hsplit, hqs, hp⟩ := mapM_eq_error_iff.mp hread
          rw [Field.error_of_ofChars hp]
          refine .badField rfl hbefore rfl hblank (hsplit ▸ hps) ?_ ?_
          · simpa only [Field.parse_ofList] using hqs
          · intro f hf
            rw [Field.parse_ofList, hp] at hf
            cases hf
  · rw [Shape.ofChars_of_noColon hcolon]
    exact .noColon hcolon

/-- **Reading a shape accepts exactly its grammar and blames the leftmost fault.**  Every text has
the one answer that its colon, its segments and the fields among them give, and every field list
has one sequence of segments. -/
theorem Shape.parse_answers (text : String) :
    (∀ r, Shape.parse text = r ↔ Shape.Answers text.toList r) ∧
      ∀ list : List Char, ∃! ps, Segments list ps := by
  refine ⟨fun r => ⟨?_, Shape.ofChars_of_answers⟩, fun list => ?_⟩
  · rintro rfl
    exact Shape.answers_ofChars text.toList
  · exact ⟨splitCommas 0 list, segments_iff.mpr rfl, fun ps hps => segments_iff.mp hps⟩

theorem parse_answers_twoFaults :
    Shape.Answers "Call : Map<K, V> entries, x, 2nd".toList (.error (.malformedField "Call" "x")) :=
  ((Shape.parse_answers _).1 _).mp (by decide)

end AstForge
