import AstForge.Declaration
import AstForge.Proofs.Text.Word

/-!
# Declarations — the pieces of a field list

A field list is cut at the commas outside brackets.  A text is *sealed* from a depth when it holds
no such comma, with the depth counted from its start; `depthAfter` is the depth where it ends.

* `pieces_splitCommas`: every piece is sealed, and all but the last end outside brackets, so that
  each piece is read from depth 0 whatever stands before it.
* `intercalate_splitCommas`: cutting loses nothing but the commas.
* `splitCommas_intercalate`: conversely, pieces of this kind joined by commas are cut apart again.
-/

namespace AstForge

open Text

/-- The depth of brackets after `cs`, starting inside `depth` of them. -/
def depthAfter (depth : Nat) (cs : List Char) : Nat :=
  cs.foldl bracketDepth depth

/-- No comma of `cs` stands outside brackets, when `cs` starts inside `depth` of them. -/
def Sealed (depth : Nat) (cs : List Char) : Prop :=
  ∀ before after, cs = before ++ ',' :: after → depthAfter depth before ≠ 0

theorem depthAfter_append (depth : Nat) (cs ds : List Char) :
    depthAfter depth (cs ++ ds) = depthAfter (depthAfter depth cs) ds :=
  List.foldl_append

theorem sealed_nil (depth : Nat) : Sealed depth [] := by
  intro before after h
  simp at h

theorem sealed_cons {depth : Nat} {c : Char} {cs : List Char} :
    Sealed depth (c :: cs) ↔ (c = ',' → depth ≠ 0) ∧ Sealed (bracketDepth depth c) cs := by
  constructor
  · intro h
    refine ⟨?_, fun before after hcs => ?_⟩
    · rintro rfl
      exact h [] cs rfl
    · subst hcs
      exact h (c :: before) after rfl
  · rintro ⟨hc, hcs⟩ before after h
    cases before with
    | nil =>
        obtain ⟨rfl, rfl⟩ := List.cons.inj h
        exact hc rfl
    | cons d before =>
        obtain ⟨rfl, rfl⟩ := List.cons.inj h
        exact hcs before after rfl

/-- A text is sealed when its parts are, each from the depth where it starts. -/
theorem sealed_append {depth : Nat} {cs ds : List Char} :
    Sealed depth (cs ++ ds) ↔ Sealed depth cs ∧ Sealed (depthAfter depth cs) ds := by
  induction cs generalizing depth with
  | nil => simp [sealed_nil, depthAfter]
  | cons c cs ih =>
      rw [List.cons_append, sealed_cons, sealed_cons, ih, and_assoc]
      rfl

/-! ### Texts without brackets and commas -/

/-- The brackets and the comma. -/
def delimiters : List Char := ['<', '(', '[', '>', ')', ']', ',']

/-- Whether `c` is a bracket or a comma. -/
def isDelimiter (c : Char) : Bool :=
  delimiters.contains c

/-- A class that holds no delimiter: every character of it is none. -/
theorem not_isDelimiter_of {p : Char → Bool} (hp : delimiters.any p = false) {c : Char} (h : p c) :
    isDelimiter c = false := by
  by_contra hm
  rw [Bool.not_eq_false, isDelimiter, List.contains_iff_mem] at hm
  exact List.any_eq_false.mp hp c hm h

/-- No blank is a delimiter. -/
theorem isDelimiter_of_isBlank {c : Char} (h : isBlank c) : isDelimiter c = false :=
  not_isDelimiter_of (by decide) h

theorem isDelimiter_of_isIdentifierRest {c : Char} (h : isIdentifierRest c) :
    isDelimiter c = false :=
  not_isDelimiter_of (by decide) h

theorem bracketDepth_of_not_isDelimiter {c : Char} (h : isDelimiter c = false) (depth : Nat) :
    bracketDepth depth c = depth := by
  simp only [isDelimiter, delimiters, List.contains_eq_mem, List.mem_cons, List.not_mem_nil,
    or_false, decide_eq_false_iff_not, not_or] at h
  obtain ⟨h₁, h₂, h₃, h₄, h₅, h₆, -⟩ := h
  simp [bracketDepth, h₁, h₂, h₃, h₄, h₅, h₆]

/-- A text without delimiters leaves the depth as it was. -/
theorem depthAfter_of_not_isDelimiter {cs : List Char} (h : ∀ c ∈ cs, isDelimiter c = false)
    (depth : Nat) : depthAfter depth cs = depth := by
  induction cs with
  | nil => rfl
  | cons c cs ih =>
      rw [depthAfter, List.foldl_cons, bracketDepth_of_not_isDelimiter (h c List.mem_cons_self)]
      exact ih fun d hd => h d (List.mem_cons_of_mem _ hd)

/-- A text without delimiters has no comma to be cut at. -/
theorem sealed_of_not_isDelimiter {cs : List Char} (h : ∀ c ∈ cs, isDelimiter c = false)
    (depth : Nat) : Sealed depth cs := by
  rintro before after rfl
  exact absurd (h ',' (by simp)) (by decide)

/-! ### Cutting -/

/-- A sealed text is one piece. -/
theorem splitCommas_sealed {depth : Nat} {cs : List Char} (h : Sealed depth cs) :
    splitCommas depth cs = [cs] := by
  induction cs generalizing depth with
  | nil => rfl
  | cons c cs ih =>
      obtain ⟨hc, hcs⟩ := sealed_cons.mp h
      have hn : ¬ ((c == ',' && depth == 0) = true) := by simpa using hc
      rw [splitCommas, if_neg hn, ih hcs]
      rfl

/-- The pieces are sealed, the first from `depth` and the others from 0, and all but the last end
outside brackets. -/
def Pieces : Nat → List (List Char) → Prop
  | _, [] => False
  | depth, [piece] => Sealed depth piece
  | depth, piece :: next :: rest =>
    Sealed depth piece ∧ depthAfter depth piece = 0 ∧ Pieces 0 (next :: rest)

/-- A character that is not cut at joins the first piece. -/
theorem pieces_modifyHead {depth : Nat} {c : Char} {ps : List (List Char)}
    (hc : c = ',' → depth ≠ 0) (h : Pieces (bracketDepth depth c) ps) :
    Pieces depth (ps.modifyHead (c :: ·)) := by
  match ps, h with
  | [], h => exact h
  | [piece], h => exact sealed_cons.mpr ⟨hc, h⟩
  | piece :: next :: rest, ⟨hs, hd, hr⟩ => exact ⟨sealed_cons.mpr ⟨hc, hs⟩, hd, hr⟩

/-- **Cutting a field list** yields pieces that can each be read on its own. -/
theorem pieces_splitCommas (depth : Nat) (cs : List Char) :
    Pieces depth (splitCommas depth cs) := by
  induction cs generalizing depth with
  | nil => exact sealed_nil depth
  | cons c cs ih =>
      rw [splitCommas]
      split
      · next hcut =>
          -- A text is cut at depth 0 only, which is where reading the next piece starts.
          obtain ⟨-, rfl⟩ : c = ',' ∧ depth = 0 := by simpa using hcut
          have hp := ih 0
          cases hs : splitCommas 0 cs with
          | nil =>
              rw [hs] at hp
              exact hp.elim
          | cons piece rest =>
              rw [hs] at hp
              exact ⟨sealed_nil 0, rfl, hp⟩
      · next hcut => exact pieces_modifyHead (by simpa using hcut) (ih _)

theorem splitCommas_ne_nil (depth : Nat) (cs : List Char) : splitCommas depth cs ≠ [] := by
  intro h
  have hp := pieces_splitCommas depth cs
  rw [h] at hp
  exact hp

/-- Where a text ends outside brackets, a comma after it sets it apart. -/
theorem splitCommas_append_of_depthAfter {depth : Nat} {before : List Char}
    (h : depthAfter depth before = 0) (after : List Char) :
    splitCommas depth (before ++ ',' :: after) =
      splitCommas depth before ++ splitCommas 0 after := by
  induction before generalizing depth with
  | nil =>
      obtain rfl : depth = 0 := h
      rfl
  | cons c before ih =>
      rw [List.cons_append, splitCommas, splitCommas]
      split
      · next hcut =>
          obtain ⟨rfl, rfl⟩ : c = ',' ∧ depth = 0 := by simpa using hcut
          have hrest : depthAfter 0 before = 0 := h
          rw [ih hrest, List.cons_append]
      · rw [ih h]
        obtain ⟨p, ps, hp⟩ :=
          List.exists_cons_of_ne_nil (splitCommas_ne_nil (bracketDepth depth c) before)
        rw [hp]
        rfl

/-- A sealed text that ends outside brackets is the first piece before a comma. -/
theorem splitCommas_append_comma {depth : Nat} {cs : List Char} (h : Sealed depth cs)
    (hd : depthAfter depth cs = 0) (rest : List Char) :
    splitCommas depth (cs ++ ',' :: rest) = cs :: splitCommas 0 rest := by
  rw [splitCommas_append_of_depthAfter hd, splitCommas_sealed h]
  rfl

/-- Joining the pieces with commas gives the text back. -/
theorem intercalate_splitCommas (depth : Nat) (cs : List Char) :
    [','].intercalate (splitCommas depth cs) = cs := by
  induction cs generalizing depth with
  | nil => rfl
  | cons c cs ih =>
      rw [splitCommas]
      split
      · next hcut =>
          obtain ⟨rfl, rfl⟩ : c = ',' ∧ depth = 0 := by simpa using hcut
          rw [List.intercalate_cons_of_ne_nil (splitCommas_ne_nil 0 cs), ih]
          rfl
      · have hcs := ih (bracketDepth depth c)
        cases hs : splitCommas (bracketDepth depth c) cs with
        | nil => exact absurd hs (splitCommas_ne_nil _ _)
        | cons piece rest =>
            rw [hs] at hcs
            cases rest with
            | nil => simpa using hcs
            | cons next rest => simpa [List.intercalate_cons_cons] using hcs

/-- Pieces that can each be read on its own are cut apart again. -/
theorem splitCommas_intercalate {depth : Nat} {ps : List (List Char)} (h : Pieces depth ps) :
    splitCommas depth ([','].intercalate ps) = ps := by
  induction ps generalizing depth with
  | nil => exact h.elim
  | cons piece rest ih =>
      cases rest with
      | nil => simpa using splitCommas_sealed h
      | cons next rest =>
          obtain ⟨hs, hd, hr⟩ := h
          rw [List.intercalate_cons_cons, List.append_assoc, List.singleton_append,
            splitCommas_append_comma hs hd, ih hr]

end AstForge
