import Mathlib.Data.List.Basic
import AstForge.Text.Split

/-!
# Text — cutting and joining

What `splitFirst` and `splitLast` answer, said by the way the text is put together: the parts, the
separator between them, and which of the two parts holds no other separator.  Likewise for the
parts between all separators (`mem_splitOnP_iff`) and for the characters of a text that is joined
from parts.
-/

namespace AstForge.Text

/-- A text is cut at its first separator. -/
theorem splitFirst_append_cons {p : Char → Bool} {l : List Char} {c : Char}
    (hl : ∀ x ∈ l, p x = false) (hc : p c) (r : List Char) :
    splitFirst p (l ++ c :: r) = some (l, r) := by
  induction l with
  | nil => simp [splitFirst, hc]
  | cons x l ih =>
      have hx : p x = false := hl x List.mem_cons_self
      have hrest := ih fun y hy => hl y (List.mem_cons_of_mem _ hy)
      simp [splitFirst, hx, hrest]

/-- A text is not cut when it holds no separator. -/
theorem splitFirst_eq_none_iff {p : Char → Bool} {cs : List Char} :
    splitFirst p cs = none ↔ ∀ c ∈ cs, p c = false := by
  induction cs with
  | nil => simp [splitFirst]
  | cons c cs ih =>
      cases hc : p c with
      | true => simp [splitFirst, hc]
      | false => simp [splitFirst, hc, ih]

/-- **The first cut.**  The separator is the first one: none stands in the part before it. -/
theorem splitFirst_eq_some_iff {p : Char → Bool} {cs l r : List Char} :
    splitFirst p cs = some (l, r) ↔
      ∃ c, p c ∧ cs = l ++ c :: r ∧ ∀ x ∈ l, p x = false := by
  constructor
  · intro h
    induction cs generalizing l with
    | nil => simp [splitFirst] at h
    | cons c cs ih =>
        cases hc : p c with
        | true =>
            obtain ⟨rfl, rfl⟩ : [] = l ∧ cs = r := by simpa [splitFirst, hc] using h
            exact ⟨c, hc, rfl, by simp⟩
        | false =>
            simp only [splitFirst, hc, Bool.false_eq_true, if_false, Option.map_eq_some_iff,
              Prod.mk.injEq] at h
            obtain ⟨⟨l', r'⟩, hs, rfl, rfl⟩ := h
            obtain ⟨d, hd, rfl, hl⟩ := ih hs
            refine ⟨d, hd, rfl, fun x hx => ?_⟩
            rcases List.mem_cons.mp hx with rfl | hx
            · exact hc
            · exact hl x hx
  · rintro ⟨c, hc, rfl, hl⟩
    exact splitFirst_append_cons hl hc r

theorem beq_eq_false_of_notMem {c : Char} {cs : List Char} (h : c ∉ cs) :
    ∀ d ∈ cs, (d == c) = false := by
  intro d hd
  rw [beq_eq_false_iff_ne]
  rintro rfl
  exact h hd

/-- There is one first separator: what stands before it, the separator and what stands after it are
determined by the whole. -/
theorem append_cons_inj {α : Type} {p : α → Bool} {l l' r r' : List α} {c c' : α}
    (hl : ∀ x ∈ l, p x = false) (hc : p c) (hl' : ∀ x ∈ l', p x = false) (hc' : p c')
    (h : l ++ c :: r = l' ++ c' :: r') : l = l' ∧ c = c' ∧ r = r' := by
  have hbefore : l = l' := by
    have htake := congrArg (List.takeWhile (!p ·)) h
    rwa [List.takeWhile_append_of_pos (by simpa using hl),
      List.takeWhile_append_of_pos (by simpa using hl'), List.takeWhile_cons_of_neg (by simpa),
      List.takeWhile_cons_of_neg (by simpa), List.append_nil, List.append_nil] at htake
  subst hbefore
  obtain ⟨rfl, rfl⟩ := List.cons.inj (List.append_cancel_left h)
  exact ⟨rfl, rfl, rfl⟩

theorem splitLast_eq_none_iff {p : Char → Bool} {cs : List Char} :
    splitLast p cs = none ↔ ∀ c ∈ cs, p c = false := by
  induction cs with
  | nil => simp [splitLast]
  | cons c cs ih =>
      cases hs : splitLast p cs with
      | none =>
          have hcs := ih.mp hs
          simp only [splitLast, hs, List.mem_cons, forall_eq_or_imp]
          exact ⟨fun h => ⟨by simpa using h, hcs⟩, fun h => by simp [h.1]⟩
      | some s =>
          -- A separator further right is one of the whole text.
          have hne : ¬ ∀ d ∈ cs, p d = false := fun h => by simp [ih.mpr h] at hs
          simp only [splitLast, hs, List.mem_cons, forall_eq_or_imp, reduceCtorEq, false_iff]
          exact fun h => hne h.2

/-- A text is cut at its last separator. -/
theorem splitLast_append_cons {p : Char → Bool} {c : Char} {r : List Char}
    (hr : ∀ x ∈ r, p x = false) (hc : p c) (l : List Char) :
    splitLast p (l ++ c :: r) = some (l, r) := by
  induction l with
  | nil => simp [splitLast, splitLast_eq_none_iff.mpr hr, hc]
  | cons x l ih => simp [splitLast, ih]

/-- **The last cut.**  The separator is the last one: none stands in the part after it. -/
theorem splitLast_eq_some_iff {p : Char → Bool} {cs l r : List Char} :
    splitLast p cs = some (l, r) ↔
      ∃ c, p c ∧ cs = l ++ c :: r ∧ ∀ x ∈ r, p x = false := by
  constructor
  · intro h
    induction cs generalizing l with
    | nil => simp [splitLast] at h
    | cons c cs ih =>
        cases hs : splitLast p cs with
        | none =>
            cases hc : p c with
            | false => simp [splitLast, hs, hc] at h
            | true =>
                obtain ⟨rfl, rfl⟩ : [] = l ∧ cs = r := by simpa [splitLast, hs, hc] using h
                exact ⟨c, hc, rfl, splitLast_eq_none_iff.mp hs⟩
        | some s =>
            obtain ⟨l', r'⟩ := s
            obtain ⟨rfl, rfl⟩ : c :: l' = l ∧ r' = r := by simpa [splitLast, hs] using h
            obtain ⟨d, hd, rfl, hr⟩ := ih hs
            exact ⟨d, hd, rfl, hr⟩
  · rintro ⟨c, hc, rfl, hr⟩
    exact splitLast_append_cons hr hc l

/-! ### The parts between all separators -/

/-- The text holds `run` as a longest stretch of characters with `p`. -/
def MaximalRun (p : Char → Bool) (run cs : List Char) : Prop :=
  (∀ c ∈ run, p c) ∧ ∃ before after, cs = before ++ run ++ after ∧
    (∀ c ∈ before.getLast?, p c = false) ∧ ∀ c ∈ after.head?, p c = false

theorem maximalRun_self {p : Char → Bool} {cs : List Char} (h : ∀ c ∈ cs, p c) :
    MaximalRun p cs cs :=
  ⟨h, [], [], by simp, by simp, by simp⟩

/-- A longest stretch stays one when something stands before it, a separator last. -/
theorem MaximalRun.append_cons {p : Char → Bool} {run cs : List Char} (h : MaximalRun p run cs)
    {c : Char} (hc : p c = false) (l : List Char) : MaximalRun p run (l ++ c :: cs) := by
  obtain ⟨hrun, before, after, rfl, hbefore, hafter⟩ := h
  refine ⟨hrun, l ++ c :: before, after, by simp, fun d hd => ?_, hafter⟩
  cases before with
  | nil =>
      obtain rfl : c = d := by simpa using hd
      exact hc
  | cons b before =>
      refine hbefore d ?_
      simpa [List.getLast?_append, List.getLast?_cons] using hd

/-- **The parts between separators** are the longest stretches without one. -/
theorem mem_splitOnP_iff {p : Char → Bool} {run cs : List Char} :
    run ∈ cs.splitOnP (!p ·) ↔ MaximalRun p run cs := by
  constructor
  · intro h
    induction hn : cs.length using Nat.strongRecOn generalizing cs with
    | _ n ih =>
        cases hcut : splitFirst (!p ·) cs with
        | none =>
            have hcs := splitFirst_eq_none_iff.mp hcut
            rw [List.splitOnP_eq_singleton hcs, List.mem_singleton] at h
            subst h
            exact maximalRun_self (by simpa using hcs)
        | some parts =>
            obtain ⟨l, r⟩ := parts
            obtain ⟨c, hc, rfl, hl⟩ := splitFirst_eq_some_iff.mp hcut
            rw [List.splitOnP_append_cons_of_forall_mem hl _ hc] at h
            rcases List.mem_cons.mp h with rfl | h
            · exact ⟨by simpa using hl, [], c :: r, by simp, by simp, by simpa using hc⟩
            · exact (ih r.length (by simp [← hn]; omega) h rfl).append_cons (by simpa using hc) l
  · rintro ⟨hrun, before, after, rfl, hbefore, hafter⟩
    have hrun : ∀ c ∈ run, (!p c) = false := by simpa using hrun
    have hmem : run ∈ (run ++ after).splitOnP (!p ·) := by
      cases after with
      | nil => simp [List.splitOnP_eq_singleton hrun]
      | cons c after =>
          have hc : (!p c) = true := by simpa using hafter c rfl
          rw [List.splitOnP_append_cons_of_forall_mem hrun _ hc]
          exact List.mem_cons_self
    rw [List.append_assoc]
    rcases List.eq_nil_or_concat before with rfl | ⟨before, c, rfl⟩
    · exact hmem
    · have hc : (!p c) = true := by simpa using hbefore c (by simp)
      rw [List.concat_eq_append, List.append_assoc, List.singleton_append,
        List.splitOnP_append_cons (p := (!p ·)) _ _ hc]
      exact List.mem_append_right _ hmem

/-- Characters that are no separators go to the first part. -/
theorem splitOn_append_of_notMem {c : Char} {w : List Char} (h : c ∉ w) (cs : List Char) :
    (w ++ cs).splitOn c = (cs.splitOn c).modifyHead (w ++ ·) := by
  induction w with
  | nil => exact (congrFun List.modifyHead_id _).symm
  | cons d w ih =>
      rw [List.mem_cons, not_or] at h
      rw [List.cons_append, List.splitOn_cons_eq_if_modifyHead, if_neg (by simpa using Ne.symm h.1),
        ih h.2, List.modifyHead_modifyHead]
      rfl

/-! ### Joined texts -/

/-- A separator stands before every part but the first. -/
theorem intercalate_singleton_cons {α : Type} (a : α) (xs : List α) (xss : List (List α)) :
    [a].intercalate (xs :: xss) = xs ++ xss.flatMap (a :: ·) := by
  induction xss generalizing xs with
  | nil => simp
  | cons ys xss ih =>
      rw [List.intercalate_cons_cons, ih, List.flatMap_cons]
      simp

/-- The characters of a part are among those of the whole. -/
theorem mem_intercalate_of_mem {sep l : List Char} {ls : List (List Char)} {c : Char}
    (hl : l ∈ ls) (hc : c ∈ l) : c ∈ sep.intercalate ls := by
  induction ls with
  | nil => cases hl
  | cons l' ls ih =>
      cases ls with
      | nil =>
          obtain rfl := List.mem_singleton.mp hl
          simpa using hc
      | cons l'' ls =>
          rw [List.intercalate_cons_cons, List.mem_append]
          rcases List.mem_cons.mp hl with rfl | hl
          · exact .inl (List.mem_append_left _ hc)
          · exact .inr (ih hl)

/-- The characters of the whole are those of its separator and of its parts. -/
theorem mem_of_mem_intercalate {α : Type} {sep : List α} {ls : List (List α)} {c : α}
    (h : c ∈ sep.intercalate ls) : c ∈ sep ∨ ∃ l ∈ ls, c ∈ l := by
  induction ls with
  | nil => simp at h
  | cons l ls ih =>
      cases ls with
      | nil => exact .inr ⟨l, by simp, by simpa using h⟩
      | cons l' ls =>
          rw [List.intercalate_cons_cons, List.mem_append, List.mem_append] at h
          rcases h with (h | h) | h
          · exact .inr ⟨l, List.mem_cons_self, h⟩
          · exact .inl h
          · refine (ih h).imp_right fun ⟨l'', hl, hc⟩ => ⟨l'', List.mem_cons_of_mem _ hl, hc⟩

theorem notMem_intercalate {sep : String} {ps : List String} {c : Char} (hsep : c ∉ sep.toList)
    (h : ∀ p ∈ ps, c ∉ p.toList) : c ∉ (sep.intercalate ps).toList := by
  rw [String.toList_intercalate]
  intro hm
  rcases mem_of_mem_intercalate hm with hm | ⟨p, hp, hm⟩
  · exact hsep hm
  · obtain ⟨q, hq, rfl⟩ := List.mem_map.mp hp
    exact h q hq hm

end AstForge.Text
