import AstForge.Proofs.Document.Header

/-!
# Documents — a comment keeps the lines of its text

A text becomes a comment line by line.  An empty line becomes the bare mark, and a space follows the
mark of any other line.  So at most one space is removed after the mark when the lines are read
back, and a line may start with spaces or slashes of its own.

The lines of a text are described by themselves (`HasLines`), without cutting it.

* `hasLines_iff`: a text without carriage returns is cut into its lines.
* `commentText_keeps_lines`: the lines of a text are read back from its comment, so texts that have
  the same comment have the same lines.
-/

namespace AstForge

open Text

/-! ### The lines of a text -/

/-- `ls` are the lines of the text.  A line feed ends each of them, but need not end the last one if
that holds something. -/
inductive Text.HasLines : List Char → List (List Char) → Prop
  | nil : HasLines [] []
  | unended {l : List Char} (h : '\n' ∉ l) (hne : l ≠ []) : HasLines l [l]
  | ended {l cs : List Char} {ls : List (List Char)} (h : '\n' ∉ l) (rest : HasLines cs ls) :
      HasLines (l ++ '\n' :: cs) (l :: ls)

namespace Text

/-- Without carriage returns, a text has no lines but those into which it is cut. -/
theorem HasLines.eq_lines {cs : List Char} {ls : List (List Char)} (h : HasLines cs ls)
    (hreturn : '\r' ∉ cs) : ls = lines cs := by
  induction h with
  | nil => rfl
  | unended h hne => rw [lines_of_notMem h, if_neg (by simpa using hne)]
  | ended h _ ih =>
      rw [List.mem_append, List.mem_cons, not_or, not_or] at hreturn
      rw [lines_append_newline h, dropReturn_of_notMem hreturn.1, ih hreturn.2.2]

/-- Without carriage returns, cutting a text gives its lines. -/
theorem hasLines_lines {cs : List Char} (hreturn : '\r' ∉ cs) : HasLines cs (lines cs) := by
  -- The lines are found from the front, and what follows the first line feed is shorter.
  induction hn : cs.length using Nat.strongRecOn generalizing cs with
  | _ n ih =>
      by_cases hnewline : '\n' ∈ cs
      · obtain ⟨l, rest, rfl, hl⟩ := List.eq_append_cons_of_mem hnewline
        rw [List.mem_append, List.mem_cons, not_or, not_or] at hreturn
        rw [lines_append_newline hl, dropReturn_of_notMem hreturn.1]
        exact .ended hl (ih rest.length (by simp [← hn]; omega) hreturn.2.2 rfl)
      · rw [lines_of_notMem hnewline]
        cases cs with
        | nil => exact .nil
        | cons c cs => exact .unended hnewline (List.cons_ne_nil c cs)

/-- **A text without carriage returns** has one list of lines, into which it is cut. -/
theorem hasLines_iff {cs : List Char} (hreturn : '\r' ∉ cs) {ls : List (List Char)} :
    HasLines cs ls ↔ ls = lines cs :=
  ⟨fun h => h.eq_lines hreturn, fun h => h ▸ hasLines_lines hreturn⟩

end Text

/-! ### Comments -/

/-- The text of a comment. -/
def commentText (indent text : String) : String :=
  renderLines indent (commentLines text)

/-- A line without its comment mark, and without the space after the mark if there is one. -/
def uncomment : List Char → Option (List Char)
  | '/' :: '/' :: ' ' :: line => some line
  | '/' :: '/' :: line => some line
  | _ => none

/-- A line is read back from its comment, whatever it starts with. -/
theorem uncomment_commentRow (line : List Char) : uncomment (commentRow line) = some line := by
  cases line with
  | nil => rfl
  | cons c line => rfl

theorem map_uncomment_commentRow (ls : List (List Char)) :
    (ls.map commentRow).map uncomment = ls.map some := by
  rw [List.map_map]
  exact List.map_congr_left fun line _ => uncomment_commentRow line

theorem commentRow_injective : Function.Injective commentRow := by
  intro line line' h
  refine Option.some.inj ?_
  rw [← uncomment_commentRow line, ← uncomment_commentRow line', h]

/-- The text of a comment is its rows, each with a line feed. -/
theorem toList_commentText (indent text : String) :
    (commentText indent text).toList =
      ((lines text.toList).map commentRow).flatMap (· ++ ['\n']) := by
  rw [commentText, toList_renderLines, rows_commentLines]

section

variable {text : String} (hreturn : '\r' ∉ text.toList)
include hreturn

/-- A comment has no carriage return that its text does not have. -/
theorem return_notMem_of_mem_commentRows {row : List Char}
    (h : row ∈ (lines text.toList).map commentRow) : '\r' ∉ row := by
  obtain ⟨line, hline, rfl⟩ := List.mem_map.mp h
  exact notMem_commentRow (by decide) fun hm => hreturn (mem_of_mem_lines hline hm)

theorem return_notMem_commentText (indent : String) : '\r' ∉ (commentText indent text).toList := by
  rw [toList_commentText, List.mem_flatMap]
  rintro ⟨row, hrow, hm⟩
  exact List.not_mem_append (return_notMem_of_mem_commentRows hreturn hrow) (by decide) hm

/-- The lines of a comment. -/
theorem lines_commentText (indent : String) :
    lines (commentText indent text).toList = (lines text.toList).map commentRow := by
  have hnewline : ∀ row ∈ (lines text.toList).map commentRow, '\n' ∉ row :=
    List.forall_mem_map.mpr fun _ hline =>
      notMem_commentRow (by decide) (newline_notMem_of_mem_lines hline)
  rw [toList_commentText, lines_terminated hnewline]
  refine (List.map_congr_left fun row hrow => ?_).trans (List.map_id _)
  exact dropReturn_of_notMem (return_notMem_of_mem_commentRows hreturn hrow)

/-- Texts with the same comment have the same lines. -/
theorem commentText_eq_iff (indent : String) {other : String} (hother : '\r' ∉ other.toList) :
    commentText indent other = commentText indent text ↔
      lines other.toList = lines text.toList := by
  constructor
  · intro h
    have hrows := lines_commentText hother indent
    rw [h, lines_commentText hreturn indent] at hrows
    exact (List.map_injective_iff.mpr commentRow_injective hrows).symm
  · intro h
    refine String.toList_injective ?_
    rw [toList_commentText, toList_commentText, h]

end

/-- **A comment keeps the lines of its text.**  For a text without carriage returns, the comment has
as many lines as the text, a line feed ends every one of them, and less their marks they are the
lines of the text in order.  So another such text has the same comment exactly when it has the same
lines. -/
theorem commentText_keeps_lines (indent : String) {text : String} (hreturn : '\r' ∉ text.toList) :
    ∃ ls rows, (∀ ls', HasLines text.toList ls' ↔ ls' = ls) ∧
      (∀ rows', HasLines (commentText indent text).toList rows' ↔ rows' = rows) ∧
      rows.length = ls.length ∧
      (commentText indent text).toList = rows.flatMap (· ++ ['\n']) ∧
      rows.map uncomment = ls.map some ∧
      ∀ other : String, '\r' ∉ other.toList →
        (commentText indent other = commentText indent text ↔ HasLines other.toList ls) := by
  refine ⟨lines text.toList, (lines text.toList).map commentRow, fun ls' => hasLines_iff hreturn,
    fun rows' => ?_, List.length_map _, toList_commentText indent text,
    map_uncomment_commentRow _, fun other hother => ?_⟩
  · rw [hasLines_iff (return_notMem_commentText hreturn indent), lines_commentText hreturn]
  · rw [commentText_eq_iff hreturn indent hother, hasLines_iff hother]
    exact eq_comm

/-- An empty line, a line that starts with spaces and slashes, and a line that nothing ends. -/
def slashedText : String := "One\n\n  // two\n/"

theorem commentText_keeps_lines_slashedText :
    '\r' ∉ slashedText.toList ∧
      commentText "  " slashedText = "// One\n//\n//   // two\n// /\n" ∧
      ∀ other : String, '\r' ∉ other.toList →
        (commentText "  " other = "// One\n//\n//   // two\n// /\n" ↔
          HasLines other.toList ["One".toList, [], "  // two".toList, "/".toList]) := by
  have hreturn : '\r' ∉ slashedText.toList := by decide
  have htext : commentText "  " slashedText = "// One\n//\n//   // two\n// /\n" := by
    decide
  obtain ⟨ls, rows, hls, -, -, -, -, hother⟩ := commentText_keeps_lines "  " hreturn
  have hlines : HasLines slashedText.toList ["One".toList, [], "  // two".toList, "/".toList] :=
    (hasLines_iff hreturn).mpr (by decide)
  obtain rfl := (hls _).mp hlines
  rw [htext] at hother
  exact ⟨hreturn, htext, hother⟩

end AstForge
