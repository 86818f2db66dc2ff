import AstForge.Proofs.Text.Cut
import AstForge.Text.Split

/-!
# Text — the lines of a text that is put together from lines

* `lines_terminated`: lines that each end with a line feed are read back, less a carriage return
  that may stand before the line feed.
* `lines_joined`: lines with line feeds between them are read back, if none is empty or ends with a
  carriage return.
* `newline_notMem_of_mem_lines`: no line of a text holds a line feed.
-/

namespace AstForge.Text

theorem endedLines_cons {l : List Char} {ls : List (List Char)} (h : ls ≠ []) :
    endedLines (l :: ls) = dropReturn l :: endedLines ls := by
  rw [endedLines]
  exact h

/-- Pieces that others follow were all ended by a line feed. -/
theorem endedLines_append (ls : List (List Char)) {ls' : List (List Char)} (h : ls' ≠ []) :
    endedLines (ls ++ ls') = ls.map dropReturn ++ endedLines ls' := by
  induction ls with
  | nil => rfl
  | cons l ls ih =>
      rw [List.cons_append, endedLines_cons (List.append_ne_nil_of_right_ne_nil ls h), ih,
        List.map_cons, List.cons_append]

theorem endedLines_concat_nil (ls : List (List Char)) :
    endedLines (ls ++ [[]]) = ls.map dropReturn := by
  rw [endedLines_append ls (by simp)]
  exact List.append_nil _

/-- A line feed after each line is one between two, with an empty piece after the last. -/
theorem flatMap_terminated (ls : List (List Char)) :
    ls.flatMap (· ++ ['\n']) = ['\n'].intercalate (ls ++ [[]]) := by
  induction ls with
  | nil => rfl
  | cons l ls ih =>
      rw [List.flatMap_cons, ih, List.cons_append,
        List.intercalate_cons_of_ne_nil (by simp : ls ++ [[]] ≠ [])]

/-- The lines of a text in which a line feed ends each line. -/
theorem lines_terminated {ls : List (List Char)} (h : ∀ l ∈ ls, '\n' ∉ l) :
    lines (ls.flatMap (· ++ ['\n'])) = ls.map dropReturn := by
  have hnl : ∀ l ∈ ls ++ [[]], '\n' ∉ l := by
    intro l hl
    rcases List.mem_append.mp hl with hl | hl
    · exact h l hl
    · simp [List.mem_singleton.mp hl]
  rw [lines, flatMap_terminated, List.splitOn_intercalate _ hnl (by simp), endedLines_concat_nil]

/-- A line feed ends the first line. -/
theorem lines_append_newline {l : List Char} (h : '\n' ∉ l) (cs : List Char) :
    lines (l ++ '\n' :: cs) = dropReturn l :: lines cs := by
  rw [lines, List.splitOn_append_cons_self_of_not_mem h,
    endedLines_cons (List.splitOn_ne_nil '\n' cs), lines]

/-- A line feed ends the last of the lines before it. -/
theorem lines_append_cons_newline (l cs : List Char) :
    lines (l ++ '\n' :: cs) = (l.splitOn '\n').map dropReturn ++ lines cs := by
  rw [lines, List.splitOn_append_cons_self, endedLines_append _ (List.splitOn_ne_nil '\n' cs),
    lines]

/-- A text without a line feed is a line, unless it is empty. -/
theorem lines_of_notMem {l : List Char} (h : '\n' ∉ l) :
    lines l = if l.isEmpty then [] else [l] := by
  rw [lines, List.splitOn_eq_singleton h, endedLines]

theorem dropReturn_eq_self {l : List Char} (h : l.getLast? ≠ some '\r') : dropReturn l = l := by
  simp [dropReturn, h]

theorem dropReturn_of_notMem {l : List Char} (h : '\r' ∉ l) : dropReturn l = l :=
  dropReturn_eq_self fun hlast => h (List.mem_of_getLast? hlast)

theorem dropReturn_toList_append (s : String) {ending : String} {c : Char}
    (h : ending.toList.getLast? = some c) (hc : c ≠ '\r') :
    dropReturn (s ++ ending).toList = (s ++ ending).toList := by
  refine dropReturn_eq_self ?_
  rw [String.toList_append, List.getLast?_append, h]
  simpa using hc

theorem dropReturn_cons_cons (c d : Char) (l : List Char) :
    dropReturn (c :: d :: l) = c :: dropReturn (d :: l) := by
  rw [dropReturn, dropReturn, List.getLast?_cons_cons, List.dropLast_cons_cons]
  split <;> rfl

/-- Dropping a final carriage return leaves what stands before, if it has none. -/
theorem dropReturn_append {w : List Char} (h : '\r' ∉ w) (l : List Char) :
    dropReturn (w ++ l) = w ++ dropReturn l := by
  cases l with
  | nil =>
      rw [List.append_nil, dropReturn_of_notMem h]
      exact (List.append_nil w).symm
  | cons c l =>
      have hlast : (w ++ c :: l).getLast? = (c :: l).getLast? := by
        simp [List.getLast?_append, List.getLast?_cons]
      rw [dropReturn, dropReturn, hlast, List.dropLast_append_of_ne_nil (by simp)]
      split <;> rfl

theorem dropReturn_isPrefix (l : List Char) : dropReturn l <+: l := by
  rw [dropReturn]
  split
  · exact List.dropLast_prefix l
  · exact List.prefix_rfl

/-- Pieces that are not empty and end with no carriage return are lines as they are. -/
theorem endedLines_eq_self {ls : List (List Char)} (hne : ∀ l ∈ ls, l ≠ [])
    (hr : ∀ l ∈ ls, l.getLast? ≠ some '\r') : endedLines ls = ls := by
  induction ls with
  | nil => rfl
  | cons l ls ih =>
      have hl := dropReturn_eq_self (hr l List.mem_cons_self)
      have ih := ih (fun x hx => hne x (List.mem_cons_of_mem _ hx))
        fun x hx => hr x (List.mem_cons_of_mem _ hx)
      cases ls with
      | nil => simpa [endedLines] using hne l List.mem_cons_self
      | cons l' ls => rw [endedLines, hl, ih]; simp

/-- The lines of a text in which line feeds stand between the lines. -/
theorem lines_joined {ls : List (List Char)} (h : ∀ l ∈ ls, '\n' ∉ l) (hne : ∀ l ∈ ls, l ≠ [])
    (hr : ∀ l ∈ ls, l.getLast? ≠ some '\r') : lines (['\n'].intercalate ls) = ls := by
  cases ls with
  | nil => rfl
  | cons l ls =>
      rw [lines, List.splitOn_intercalate _ h (by simp), endedLines_eq_self hne hr]

/-! ### No line holds a line feed -/

theorem newline_notMem_of_mem_splitOn {cs p : List Char} (h : p ∈ cs.splitOn '\n') :
    '\n' ∉ p := by
  induction cs generalizing p with
  | nil =>
      rw [List.splitOn_nil, List.mem_singleton] at h
      simp [h]
  | cons c cs ih =>
      rw [List.splitOn_cons_eq_if_modifyHead] at h
      -- A line feed starts a new piece; another character joins the first piece of the rest.
      split at h
      · rcases List.mem_cons.mp h with rfl | h
        · simp
        · exact ih h
      · next hc =>
          obtain ⟨q, qs, hq⟩ := List.exists_cons_of_ne_nil (List.splitOn_ne_nil '\n' cs)
          rw [hq, List.modifyHead_cons] at h
          rw [hq] at ih
          rcases List.mem_cons.mp h with rfl | h
          · have hc' : '\n' ≠ c := fun he => hc (by simp [← he])
            simpa [hc'] using ih List.mem_cons_self
          · exact ih (List.mem_cons_of_mem _ h)

/-- A line is a piece, or a part of it. -/
theorem exists_of_mem_endedLines {ps : List (List Char)} {l : List Char}
    (h : l ∈ endedLines ps) : ∃ p ∈ ps, l.Sublist p := by
  induction ps with
  | nil => cases h
  | cons p ps ih =>
      cases ps with
      | nil =>
          rw [endedLines] at h
          split at h
          · cases h
          · obtain rfl := List.mem_singleton.mp h
            exact ⟨l, List.mem_cons_self, List.Sublist.refl l⟩
      | cons p' ps =>
          rw [endedLines] at h
          · rcases List.mem_cons.mp h with rfl | h
            · exact ⟨p, List.mem_cons_self, (dropReturn_isPrefix p).sublist⟩
            · obtain ⟨q, hq, hl⟩ := ih h
              exact ⟨q, List.mem_cons_of_mem _ hq, hl⟩
          · simp

/-- No line of a text holds a line feed. -/
theorem newline_notMem_of_mem_lines {cs l : List Char} (h : l ∈ lines cs) : '\n' ∉ l := by
  obtain ⟨p, hp, hl⟩ := exists_of_mem_endedLines h
  exact fun hm => newline_notMem_of_mem_splitOn hp (hl.subset hm)

/-- The characters of a line are among those of the text. -/
theorem mem_of_mem_lines {cs l : List Char} (h : l ∈ lines cs) {c : Char} (hc : c ∈ l) :
    c ∈ cs := by
  obtain ⟨p, hp, hl⟩ := exists_of_mem_endedLines h
  have hjoin : ['\n'].intercalate (cs.splitOn '\n') = cs := List.intercalate_splitOn _
  exact hjoin ▸ mem_intercalate_of_mem hp (hl.subset hc)

end AstForge.Text
