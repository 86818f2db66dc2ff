import AstForge.Proofs.Text.Lines
import AstForge.Proofs.Text.Trim
import AstForge.Table.Source

/-!
# Tables — the layout of a table's text

Declarations can be laid out in a text in many ways: with blanks around them, with comments after
them, among lines that declare nothing, and with either end to a line.  `LaidOut ds source` says
that `source` is such a layout of the declarations `ds`.

* `LaidOut.sourceCodes_eq`: a layout of declarations is read as these declarations, trimmed.
* `laidOut_sourceCodes`: every text is a layout of the declarations that are read from it, so the
  relation leaves no text out.
* `Table.ofSource_ignores_layout`: the table, or the reason why there is none, depends on the
  declarations alone.
-/

namespace AstForge

open Text

/-! ### Layouts -/

/-- Blanks that end no line. -/
def Padding (w : List Char) : Prop :=
  ∀ c ∈ w, isBlank c ∧ c ≠ '\n'

/-- The line holds `code` with padding around it, and a comment after it or none. -/
inductive LineOf (code : List Char) : List Char → Prop
  | bare {w w' : List Char} (hw : Padding w) (hw' : Padding w') : LineOf code (w ++ code ++ w')
  | commented {w w' comment : List Char} (hw : Padding w) (hw' : Padding w')
      (hcomment : '\n' ∉ comment) : LineOf code (w ++ code ++ w' ++ '#' :: comment)

/-- What may end a line: a line feed, or a carriage return and a line feed. -/
def lineEnds : List (List Char) := [['\n'], ['\r', '\n']]

/-- The text holds the declarations in order, one a line, among lines that hold no code.  Nothing
need end the last line. -/
inductive LaidOut : List (List Char) → List Char → Prop
  | lastLine {d l : List Char} (h : LineOf d l) : LaidOut [d] l
  | lastBlank {l : List Char} (h : LineOf [] l) : LaidOut [] l
  | line {d l e : List Char} {ds : List (List Char)} {source : List Char} (h : LineOf d l)
      (he : e ∈ lineEnds) (rest : LaidOut ds source) : LaidOut (d :: ds) (l ++ e ++ source)
  | blank {l e : List Char} {ds : List (List Char)} {source : List Char} (h : LineOf [] l)
      (he : e ∈ lineEnds) (rest : LaidOut ds source) : LaidOut ds (l ++ e ++ source)

/-- The text can be a declaration on a line of its own. -/
structure DeclarationLine (cs : List Char) : Prop where
  notBlank : ∃ c ∈ cs, isBlank c = false
  newline : '\n' ∉ cs
  comment : '#' ∉ cs

/-! ### The code of a line -/

/-- What a line declares: the part before its comment, trimmed. -/
def lineCode (line : List Char) : List Char :=
  trim (dropComment line)

/-- What follows the first `#` is dropped. -/
theorem dropComment_append_cons {cs : List Char} (h : '#' ∉ cs) (comment : List Char) :
    dropComment (cs ++ '#' :: comment) = cs := by
  rw [dropComment, splitFirst_append_cons (beq_eq_false_of_notMem h) (by rfl)]

theorem dropComment_eq_self {cs : List Char} (h : '#' ∉ cs) : dropComment cs = cs := by
  rw [dropComment, splitFirst_eq_none_iff.mpr (beq_eq_false_of_notMem h)]

/-- A line is its code with blanks around it, and its comment if it has one. -/
theorem dropComment_cases (cs : List Char) :
    ('#' ∉ cs ∧ dropComment cs = cs) ∨
      ∃ comment, '#' ∉ dropComment cs ∧ cs = dropComment cs ++ '#' :: comment := by
  cases hcut : splitFirst (· == '#') cs with
  | none =>
      have hnone : '#' ∉ cs := fun hm => by simpa using splitFirst_eq_none_iff.mp hcut _ hm
      exact .inl ⟨hnone, dropComment_eq_self hnone⟩
  | some parts =>
      obtain ⟨code, comment⟩ := parts
      obtain ⟨c, hc, rfl, hcode⟩ := splitFirst_eq_some_iff.mp hcut
      obtain rfl : c = '#' := by simpa using hc
      have hnone : '#' ∉ code := fun hm => by simpa using hcode _ hm
      exact .inr ⟨comment, by rw [dropComment_append_cons hnone]; exact ⟨hnone, rfl⟩⟩

/-- The carriage return that `lines` drops is a blank after the code, or ends the comment. -/
theorem lineCode_dropReturn (l : List Char) : lineCode (dropReturn l) = lineCode l := by
  rw [dropReturn]
  split
  · next hlast =>
      obtain ⟨cs, rfl⟩ := List.getLast?_eq_some_iff.mp (by simpa using hlast)
      rw [List.dropLast_concat, lineCode, lineCode]
      rcases dropComment_cases cs with ⟨hnone, hcs⟩ | ⟨comment, hnone, hcs⟩
      · have hreturn : '#' ∉ cs ++ ['\r'] := by simp [hnone]
        rw [hcs, dropComment_eq_self hreturn,
          trim_append_blanks (List.forall_mem_singleton.mpr rfl)]
      · have hsplit : cs ++ ['\r'] = dropComment cs ++ '#' :: (comment ++ ['\r']) := by
          conv_lhs => rw [hcs]
          simp
        rw [hsplit, dropComment_append_cons hnone]
  · rfl

theorem Padding.isBlank {w : List Char} (h : Padding w) : ∀ c ∈ w, isBlank c :=
  fun c hc => (h c hc).1

/-- Padding holds blanks alone, and no line feed. -/
theorem Padding.notMem {w : List Char} (h : Padding w) {c : Char}
    (hc : Text.isBlank c = false ∨ c = '\n') : c ∉ w := by
  intro hm
  obtain ⟨hblank, hne⟩ := h c hm
  rcases hc with hc | hc
  · rw [hc] at hblank
    cases hblank
  · exact hne hc

namespace LineOf

variable {d l : List Char}

theorem newline_notMem (h : LineOf d l) (hd : '\n' ∉ d) : '\n' ∉ l := by
  cases h with
  | bare hw hw' => simp [hw.notMem (.inr rfl), hw'.notMem (.inr rfl), hd]
  | commented hw hw' hcomment =>
      simp [hw.notMem (.inr rfl), hw'.notMem (.inr rfl), hd, hcomment]

/-- The code of a line is read back, trimmed. -/
theorem lineCode_eq (h : LineOf d l) (hd : '#' ∉ d) : lineCode l = trim d := by
  have htrim : ∀ {w w' : List Char}, Padding w → Padding w' → trim (w ++ d ++ w') = trim d := by
    intro w w' hw hw'
    rw [trim_append_blanks hw'.isBlank, trim_blanks_append hw.isBlank]
  have hnone : ∀ {w w' : List Char}, Padding w → Padding w' → '#' ∉ w ++ d ++ w' := by
    intro w w' hw hw'
    simp [hw.notMem (c := '#') (.inl rfl), hw'.notMem (c := '#') (.inl rfl), hd]
  cases h with
  | bare hw hw' => rw [lineCode, dropComment_eq_self (hnone hw hw'), htrim hw hw']
  | commented hw hw' hcomment =>
      rw [lineCode, dropComment_append_cons (hnone hw hw'), htrim hw hw']

/-- The carriage return of a line's end pads the code or belongs to the comment. -/
theorem append_return (h : LineOf d l) : LineOf d (l ++ ['\r']) := by
  cases h with
  | @bare w w' hw hw' =>
      rw [List.append_assoc]
      refine .bare hw (List.forall_mem_append.mpr ⟨hw', ?_⟩)
      exact List.forall_mem_singleton.mpr ⟨rfl, by decide⟩
  | @commented w w' comment hw hw' hcomment =>
      rw [List.append_assoc, List.cons_append]
      exact .commented hw hw' (by simp [hcomment])

/-- With either end, the line is one that a line feed ends. -/
theorem exists_of_lineEnds (h : LineOf d l) {e : List Char} (he : e ∈ lineEnds) :
    ∃ l', LineOf d l' ∧ ∀ source, l ++ e ++ source = l' ++ '\n' :: source := by
  simp only [lineEnds, List.mem_cons, List.not_mem_nil, or_false] at he
  rcases he with rfl | rfl
  · exact ⟨l, h, by simp⟩
  · exact ⟨l ++ ['\r'], h.append_return, by simp⟩

end LineOf

/-- Every line is a line of its code. -/
theorem lineOf_lineCode {l : List Char} (h : '\n' ∉ l) : LineOf (lineCode l) l := by
  obtain ⟨-, w, w', hw, hw', hcode⟩ := trim_eq_iff.mp (Eq.refl (lineCode l))
  have hpadding : '\n' ∉ dropComment l → Padding w ∧ Padding w' := by
    intro hnl
    rw [hcode] at hnl
    simp only [List.mem_append, not_or] at hnl
    exact ⟨fun c hc => ⟨hw c hc, fun he => hnl.1.1 (he ▸ hc)⟩,
      fun c hc => ⟨hw' c hc, fun he => hnl.2 (he ▸ hc)⟩⟩
  rcases dropComment_cases l with ⟨-, hl⟩ | ⟨comment, -, hl⟩
  · obtain ⟨hw, hw'⟩ := hpadding (by rwa [hl])
    have hline : LineOf (lineCode l) (w ++ lineCode l ++ w') := .bare hw hw'
    rwa [← hcode, hl] at hline
  · have hnl : '\n' ∉ dropComment l ∧ '\n' ∉ comment := by
      rw [hl] at h
      simpa using h
    obtain ⟨hw, hw'⟩ := hpadding hnl.1
    have hline : LineOf (lineCode l) (w ++ lineCode l ++ w' ++ '#' :: comment) :=
      .commented hw hw' hnl.2
    rwa [← hcode, ← hl] at hline

/-! ### The declarations of a text -/

/-- What the lines of a text declare. -/
def sourceCodes (source : List Char) : List (List Char) :=
  ((lines source).map lineCode).filter (!·.isEmpty)

theorem sourceDeclarations_eq (source : String) :
    sourceDeclarations source = (sourceCodes source.toList).map String.ofList := rfl

/-- A text without a line feed declares what its one line does. -/
theorem sourceCodes_of_notMem {l : List Char} (h : '\n' ∉ l) :
    sourceCodes l = [lineCode l].filter (!·.isEmpty) := by
  rw [sourceCodes, lines_of_notMem h]
  cases l with
  | nil => rfl
  | cons c l => rfl

/-- A line feed parts what a line declares from what the rest declares. -/
theorem sourceCodes_append_newline {l : List Char} (h : '\n' ∉ l) (source : List Char) :
    sourceCodes (l ++ '\n' :: source) =
      [lineCode l].filter (!·.isEmpty) ++ sourceCodes source := by
  rw [sourceCodes, lines_append_newline h, List.map_cons, lineCode_dropReturn,
    ← List.singleton_append, List.filter_append, sourceCodes]

/-- A line that holds a declaration declares it. -/
theorem DeclarationLine.filter_lineCode {d l : List Char} (hd : DeclarationLine d)
    (h : LineOf d l) : [lineCode l].filter (!·.isEmpty) = [trim d] := by
  obtain ⟨c, hc, hblank⟩ := hd.notBlank
  have hne : trim d ≠ [] := by
    intro hnil
    rw [trim_eq_nil_iff.mp hnil c hc] at hblank
    cases hblank
  rw [h.lineCode_eq hd.comment, List.filter_cons_of_pos (by simpa using hne), List.filter_nil]

/-- A line that holds no code declares nothing. -/
theorem LineOf.filter_lineCode_nil {l : List Char} (h : LineOf [] l) :
    [lineCode l].filter (!·.isEmpty) = [] := by
  rw [h.lineCode_eq (by simp)]
  rfl

/-- **A layout of declarations is read as these declarations**, trimmed. -/
theorem LaidOut.sourceCodes_eq {ds : List (List Char)} {source : List Char}
    (h : LaidOut ds source) (hds : ∀ d ∈ ds, DeclarationLine d) :
    sourceCodes source = ds.map trim := by
  induction h with
  | lastLine h =>
      have hd := List.forall_mem_singleton.mp hds
      rw [sourceCodes_of_notMem (h.newline_notMem hd.newline), hd.filter_lineCode h]
      rfl
  | lastBlank h =>
      rw [sourceCodes_of_notMem (h.newline_notMem (by simp)), h.filter_lineCode_nil]
      rfl
  | line h he rest ih =>
      obtain ⟨hd, hds⟩ := List.forall_mem_cons.mp hds
      obtain ⟨l', hl, happend⟩ := h.exists_of_lineEnds he
      rw [happend, sourceCodes_append_newline (hl.newline_notMem hd.newline),
        hd.filter_lineCode hl, ih hds]
      rfl
  | blank h he rest ih =>
      obtain ⟨l', hl, happend⟩ := h.exists_of_lineEnds he
      rw [happend, sourceCodes_append_newline (hl.newline_notMem (by simp)),
        hl.filter_lineCode_nil, ih hds]
      rfl

/-- **Every text is a layout** of the declarations that are read from it. -/
theorem laidOut_sourceCodes (source : List Char) : LaidOut (sourceCodes source) source := by
  induction hn : source.length using Nat.strong_induction_on generalizing source with
  | _ n ih =>
      by_cases hnl : '\n' ∈ source
      · -- The first line feed ends a line, and the rest is shorter.
        obtain ⟨l, rest, rfl, hl⟩ := List.eq_append_cons_of_mem hnl
        have hrest := ih rest.length (by simp [← hn]; omega) rest rfl
        have hline := lineOf_lineCode hl
        rw [sourceCodes_append_newline hl, List.append_cons l '\n' rest]
        cases hcode : lineCode l with
        | nil =>
            rw [hcode] at hline
            exact .blank hline (by simp [lineEnds]) hrest
        | cons c cs =>
            rw [hcode] at hline
            exact .line hline (by simp [lineEnds]) hrest
      · have hline := lineOf_lineCode hnl
        rw [sourceCodes_of_notMem hnl]
        cases hcode : lineCode source with
        | nil =>
            rw [hcode] at hline
            exact .lastBlank hline
        | cons c cs =>
            rw [hcode] at hline
            exact .lastLine hline

/-! ### Tables -/

/-- **The layout of a table's text does not matter.**  A text that is laid out from declarations is
read as the declarations themselves are, trimmed: they make the same table or are refused for the
same reason. -/
theorem Table.ofSource_ignores_layout {declarations : List String} {source : String}
    (hds : ∀ d ∈ declarations, DeclarationLine d.toList)
    (h : LaidOut (declarations.map String.toList) source.toList) (base : String) :
    Table.ofSource base source =
      Table.ofDeclarations base (declarations.map fun d => String.ofList (trim d.toList)) := by
  have hcodes : sourceCodes source.toList = (declarations.map String.toList).map trim :=
    h.sourceCodes_eq (List.forall_mem_map.mpr hds)
  rw [Table.ofSource, sourceDeclarations_eq, hcodes, List.map_map, List.map_map]
  rfl

/-- A comment, a declaration with a comment that holds a `#`, a colon and a carriage return, an
empty line, and a declaration that no line feed ends. -/
def sprawlingSource : String :=
  "# nodes\r\n Get : Expr object \u00a0# a: #b\r\r\n\n\tThis :\r"

theorem ofSource_ignores_layout_sprawlingSource :
    Table.ofSource " Expr" sprawlingSource =
        Table.ofDeclarations " Expr" ["Get : Expr object", "This :"] ∧
      (∃ t, Table.ofSource " Expr" sprawlingSource = .ok t) ∧
      Table.ofSource "This" sprawlingSource = .error (.shadowsBase "This") := by
  have hnone : Padding [] := by simp [Padding]
  have hpad : ∀ {c : Char}, isBlank c → c ≠ '\n' → Padding [c] := fun hc hne =>
    List.forall_mem_singleton.mpr ⟨hc, hne⟩
  have hsource : sprawlingSource.toList =
      ([] ++ [] ++ [] ++ '#' :: " nodes".toList) ++ ['\r', '\n'] ++
        ([' '] ++ "Get : Expr object ".toList ++ ['\u00a0'] ++ '#' :: " a: #b\r".toList ++
            ['\r', '\n'] ++
          ([] ++ [] ++ [] ++ ['\n'] ++ (['\t'] ++ "This :".toList ++ ['\r']))) := rfl
  have hlaid : LaidOut (["Get : Expr object ", "This :"].map String.toList)
      sprawlingSource.toList := by
    rw [hsource]
    refine .blank (.commented hnone hnone (by decide)) (by decide) ?_
    refine .line (.commented (hpad rfl (by decide)) (hpad rfl (by decide)) (by decide))
      (by decide) ?_
    refine .blank (.bare hnone hnone) (by decide) ?_
    exact .lastLine (.bare (hpad rfl (by decide)) (hpad rfl (by decide)))
  have hds : ∀ d ∈ ["Get : Expr object ", "This :"], DeclarationLine d.toList := by
    simp only [List.forall_mem_cons, List.not_mem_nil, false_imp_iff, implies_true, and_true]
    exact ⟨⟨⟨'G', by decide, rfl⟩, by decide, by decide⟩,
      ⟨⟨'T', by decide, rfl⟩, by decide, by decide⟩⟩
  have hread := fun base => Table.ofSource_ignores_layout hds hlaid base
  exact ⟨hread " Expr", ⟨_, hread " Expr"⟩, hread "This"⟩

end AstForge
