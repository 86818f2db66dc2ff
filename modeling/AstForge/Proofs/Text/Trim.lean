import Mathlib.Data.List.DropRight
import AstForge.Text.Blank

/-!
# Text — what trimming keeps

A text is *trimmed* when no blank stands at either end.  Trimming yields the one trimmed text that
differs from the original by blanks at the ends (`trim_eq_iff`), so a proof that knows how a text is
put together from blanks and a trimmed core reads the result off without opening `trim`.
-/

namespace AstForge.Text

/-- No blank stands at either end of `cs`. -/
structure Trimmed (cs : List Char) : Prop where
  head : ∀ c ∈ cs.head?, isBlank c = false
  last : ∀ c ∈ cs.getLast?, isBlank c = false

theorem isBlank_of_mem_space : ∀ c ∈ [' '], isBlank c :=
  List.forall_mem_singleton.mpr rfl

theorem trimEnd_eq_rdropWhile (cs : List Char) : trimEnd cs = cs.rdropWhile isBlank := rfl

/-- Blanks at the start are dropped. -/
theorem trimStart_blanks_append {w : List Char} (hw : ∀ c ∈ w, isBlank c) (cs : List Char) :
    trimStart (w ++ cs) = trimStart cs := by
  induction w with
  | nil => rfl
  | cons c w ih =>
      rw [List.cons_append, trimStart, List.dropWhile_cons_of_pos (hw c List.mem_cons_self)]
      exact ih fun d hd => hw d (List.mem_cons_of_mem _ hd)

theorem trimEnd_append_blanks {w : List Char} (hw : ∀ c ∈ w, isBlank c) (cs : List Char) :
    trimEnd (cs ++ w) = trimEnd cs := by
  rw [trimEnd, trimEnd, List.reverse_append]
  exact congrArg List.reverse
    (trimStart_blanks_append (fun c hc => hw c (List.mem_reverse.mp hc)) cs.reverse)

/-- A text that starts with no blank is kept at its start. -/
theorem trimStart_eq_self {cs : List Char} (h : ∀ c ∈ cs.head?, isBlank c = false) :
    trimStart cs = cs := by
  cases cs with
  | nil => rfl
  | cons c cs =>
      have hc : isBlank c = false := h c rfl
      exact List.dropWhile_cons_of_neg (by simp [hc])

theorem trimEnd_eq_self {cs : List Char} (h : ∀ c ∈ cs.getLast?, isBlank c = false) :
    trimEnd cs = cs := by
  rw [trimEnd_eq_rdropWhile, List.rdropWhile_eq_self_iff]
  intro hne
  simp [h _ (List.getLast?_eq_some_getLast hne)]

/-- What trimming the start drops is blank, and what it keeps starts with no blank. -/
theorem trimStart_spec (cs : List Char) :
    ∃ w, (∀ c ∈ w, isBlank c) ∧ cs = w ++ trimStart cs ∧
      ∀ c ∈ (trimStart cs).head?, isBlank c = false := by
  refine ⟨cs.takeWhile isBlank, fun c hc => List.mem_takeWhile_imp hc,
    (List.takeWhile_append_dropWhile).symm, fun c hc => ?_⟩
  have h := List.head?_dropWhile_not isBlank cs
  rw [show cs.dropWhile isBlank = trimStart cs from rfl, Option.mem_def.mp hc] at h
  exact h

/-- What trimming the end drops is blank, and what it keeps ends with no blank. -/
theorem trimEnd_spec (cs : List Char) :
    ∃ w, (∀ c ∈ w, isBlank c) ∧ cs = trimEnd cs ++ w ∧
      ∀ c ∈ (trimEnd cs).getLast?, isBlank c = false := by
  refine ⟨cs.rtakeWhile isBlank, fun c hc => List.mem_rtakeWhile_imp hc,
    List.rdropWhile_append_rtakeWhile.symm, fun c hc => ?_⟩
  have hne : trimEnd cs ≠ [] := by rintro h; simp [h] at hc
  rw [List.getLast?_eq_some_getLast hne, Option.mem_some] at hc
  subst hc
  exact Bool.eq_false_iff.mpr (List.rdropWhile_last_not isBlank cs hne)

/-- A text that starts with no blank still does when its end is trimmed. -/
theorem head_trimEnd {cs : List Char} (h : ∀ c ∈ cs.head?, isBlank c = false) :
    ∀ c ∈ (trimEnd cs).head?, isBlank c = false := by
  intro c hc
  obtain ⟨w, -, hcs, -⟩ := trimEnd_spec cs
  refine h c ?_
  rw [hcs, Option.mem_def, List.head?_append, Option.mem_def.mp hc, Option.some_or]

/-- What trimming leaves is trimmed. -/
theorem trimmed_trim (cs : List Char) : Trimmed (trim cs) := by
  obtain ⟨-, -, -, hs⟩ := trimStart_spec cs
  obtain ⟨-, -, -, he⟩ := trimEnd_spec (trimStart cs)
  exact ⟨head_trimEnd hs, he⟩

/-- **Trimming.**  The trimmed text is the trimmed core that blanks surround, and there is only
one such core. -/
theorem trim_eq_iff {cs t : List Char} :
    trim cs = t ↔
      Trimmed t ∧ ∃ w w', (∀ c ∈ w, isBlank c) ∧ (∀ c ∈ w', isBlank c) ∧ cs = w ++ t ++ w' := by
  constructor
  · rintro rfl
    refine ⟨trimmed_trim cs, ?_⟩
    obtain ⟨w, hw, hs, -⟩ := trimStart_spec cs
    obtain ⟨w', hw', he, -⟩ := trimEnd_spec (trimStart cs)
    refine ⟨w, w', hw, hw', ?_⟩
    rw [List.append_assoc, trim, ← he, ← hs]
  · rintro ⟨ht, w, w', hw, hw', rfl⟩
    rw [trim, List.append_assoc, trimStart_blanks_append hw]
    cases t with
    | nil =>
        -- Nothing but blanks: the start alone takes all of them.
        have h := trimStart_blanks_append hw' []
        rw [List.append_nil] at h
        rw [List.nil_append, h]
        rfl
    | cons c t =>
        have hstart : trimStart ((c :: t) ++ w') = (c :: t) ++ w' := trimStart_eq_self ht.head
        rw [hstart, trimEnd_append_blanks hw', trimEnd_eq_self ht.last]

theorem Trimmed.trim_eq {cs : List Char} (h : Trimmed cs) : trim cs = cs :=
  trim_eq_iff.mpr ⟨h, [], [], by simp, by simp, by simp⟩

/-- The trimmed texts are those that trimming keeps. -/
theorem trimmed_iff {cs : List Char} : Trimmed cs ↔ trim cs = cs :=
  ⟨Trimmed.trim_eq, fun h => h ▸ trimmed_trim cs⟩

/-- Blanks before a text do not change what trimming leaves of it. -/
theorem trim_blanks_append {w : List Char} (hw : ∀ c ∈ w, isBlank c) (cs : List Char) :
    trim (w ++ cs) = trim cs :=
  congrArg trimEnd (trimStart_blanks_append hw cs)

/-- Nor do blanks after it. -/
theorem trim_append_blanks {w : List Char} (hw : ∀ c ∈ w, isBlank c) (cs : List Char) :
    trim (cs ++ w) = trim cs := by
  obtain ⟨htrimmed, v, v', hv, hv', hcs⟩ := trim_eq_iff.mp (Eq.refl (trim cs))
  refine trim_eq_iff.mpr ⟨htrimmed, v, v' ++ w, hv, List.forall_mem_append.mpr ⟨hv', hw⟩, ?_⟩
  rw [← List.append_assoc, ← hcs]

theorem trim_append_space (cs : List Char) : trim (cs ++ [' ']) = trim cs :=
  trim_append_blanks isBlank_of_mem_space cs

/-- Trimming leaves nothing of blanks alone. -/
theorem trim_eq_nil_iff {cs : List Char} : trim cs = [] ↔ ∀ c ∈ cs, isBlank c := by
  rw [trim_eq_iff]
  constructor
  · rintro ⟨-, w, w', hw, hw', rfl⟩ c hc
    rcases List.mem_append.mp hc with hc | hc
    · exact hw c (by simpa using hc)
    · exact hw' c hc
  · intro h
    exact ⟨⟨by simp, by simp⟩, cs, [], h, by simp, by simp⟩

/-- Trimming adds no character. -/
theorem mem_of_mem_trim {cs : List Char} {c : Char} (h : c ∈ trim cs) : c ∈ cs := by
  obtain ⟨-, w, w', -, -, hcs⟩ := trim_eq_iff.mp (rfl : trim cs = trim cs)
  rw [hcs]
  simp [h]

end AstForge.Text
