import AstForge.Proofs.Text.Snake
import AstForge.Resolved

/-!
# Text — the underscores of snake case

The snake case of any text is the text in lower case with underscores put in.  Where they are put in
depends on the characters of the text around each place, not on what was written before.  So the
text is first *marked*, each character with whether an underscore comes before it, and then written
(`writeMarked_marks`); what holds of the marks is read off one by one (`isMarked_of_marksAfter`).

* `toSnakeCase_inserts_underscores`: for ASCII texts, where the underscores stand, what is left
  without them, and that nothing changes the second time; and what two shapes have in common whose
  visit methods coincide.
-/

namespace AstForge.Text

/-! ### Characters -/

/-- The lower-case form of an ASCII character is no capital, and lowering it again changes
nothing. -/
theorem toLower_ascii {c : Char} (h : c.toNat < 128) :
    isUppercase c.toLower = false ∧ c.toLower.toLower = c.toLower :=
  forall_ascii (P := fun c => isUppercase c.toLower = false ∧ c.toLower.toLower = c.toLower)
    (by decide) h

/-- Among ASCII characters the upper-case ones are the capitals. -/
theorem isCapital_of_isUppercase {c : Char} (h : c.toNat < 128) (hupper : isUppercase c) :
    IsCapital c :=
  forall_ascii (P := fun c => isUppercase c → IsCapital c) (by decide) h hupper

/-- Among ASCII characters only the underscore is lowered to an underscore. -/
theorem toLower_eq_underscore {c : Char} (h : c.toNat < 128) (hlower : c.toLower = '_') :
    c = '_' :=
  forall_ascii (P := fun c => c.toLower = '_' → c = '_') (by decide) h hlower

theorem IsCapital.toLower_ne_underscore {c : Char} (h : IsCapital c) : c.toLower ≠ '_' := by
  have hascii : c.toNat < 128 := Nat.lt_of_le_of_lt h.2 (by decide)
  exact forall_ascii (P := fun c => IsCapital c → c.toLower ≠ '_') (by decide) hascii h

/-! ### Marks -/

/-- A character of a text, with whether an underscore is put before it. -/
structure Marked where
  isMarked : Bool
  char : Char

/-- A marked character in lower case, after an underscore if it is marked. -/
def Marked.write (m : Marked) : List Char :=
  if m.isMarked then ['_', m.char.toLower] else [m.char.toLower]

/-- A marked text in lower case, with its underscores. -/
def writeMarked (ms : List Marked) : List Char :=
  ms.flatMap Marked.write

/-- `ds` is `cs` in lower case with underscores put in, each directly before a capital that is not
the first character, and none next to another underscore. -/
def IsUnderscored (cs ds : List Char) : Prop :=
  ∃ ms : List Marked, ms.map Marked.char = cs ∧ writeMarked ms = ds ∧
    ∀ before m after, ms = before ++ m :: after → m.isMarked →
      before ≠ [] ∧ IsCapital m.char ∧
        (writeMarked before).getLast? ≠ some '_' ∧ m.char.toLower ≠ '_'

/-- The text that follows the character `prev`, with the marks of snake case. -/
def marksAfter (prev : Char) : List Char → List Marked
  | [] => []
  | c :: cs => ⟨startsWord prev c cs, c⟩ :: marksAfter c cs

/-- A text with the marks of snake case; the first character has none. -/
def marks : List Char → List Marked
  | [] => []
  | c :: cs => ⟨false, c⟩ :: marksAfter c cs

theorem map_char_marksAfter (prev : Char) (cs : List Char) :
    (marksAfter prev cs).map Marked.char = cs := by
  induction cs generalizing prev with
  | nil => rfl
  | cons c cs ih => rw [marksAfter, List.map_cons, ih]

theorem map_char_marks (cs : List Char) : (marks cs).map Marked.char = cs := by
  cases cs with
  | nil => rfl
  | cons c cs => rw [marks, List.map_cons, map_char_marksAfter]

theorem writeMarked_cons (m : Marked) (ms : List Marked) :
    writeMarked (m :: ms) = m.write ++ writeMarked ms :=
  List.flatMap_cons

/-- Snake case writes the marked characters, small, and an underscore before each that is marked. -/
theorem writeMarked_marksAfter (prev : Char) (cs : List Char) :
    writeMarked (marksAfter prev cs) = snakeAfter prev cs := by
  induction cs generalizing prev with
  | nil => rfl
  | cons c cs ih =>
      rw [marksAfter, writeMarked_cons, ih, snakeAfter, Marked.write]
      cases startsWord prev c cs with
      | false => rfl
      | true => rfl

/-- **Snake case writes the marks.** -/
theorem writeMarked_marks (cs : List Char) : writeMarked (marks cs) = snake cs := by
  cases cs with
  | nil => rfl
  | cons c cs =>
      rw [marks, writeMarked_cons, writeMarked_marksAfter]
      rfl

/-- **One mark.**  It looks at the characters of the text on both sides. -/
theorem isMarked_of_marksAfter {prev : Char} {cs : List Char} {before after : List Marked}
    {m : Marked} (h : marksAfter prev cs = before ++ m :: after) :
    m.isMarked =
      startsWord ((before.map Marked.char).getLastD prev) m.char (after.map Marked.char) := by
  induction before generalizing prev cs with
  | nil =>
      cases cs with
      | nil => cases h
      | cons c cs =>
          obtain ⟨rfl, rfl⟩ := List.cons.inj h
          rw [map_char_marksAfter]
          rfl
  | cons b before ih =>
      cases cs with
      | nil => cases h
      | cons c cs =>
          obtain ⟨rfl, hrest⟩ := List.cons.inj h
          rw [List.map_cons, List.getLastD_cons]
          exact ih hrest

/-- A marked text ends with the lower-case form of its last character. -/
theorem getLast?_writeMarked_cons (m : Marked) (ms : List Marked) :
    (writeMarked (m :: ms)).getLast? =
      some ((ms.map Marked.char).getLastD m.char).toLower := by
  induction ms generalizing m with
  | nil =>
      rw [writeMarked_cons, Marked.write]
      cases m.isMarked with
      | false => rfl
      | true => rfl
  | cons m' ms ih =>
      rw [writeMarked_cons, List.getLast?_append, ih, List.map_cons, List.getLastD_cons]
      rfl

/-- Only a capital starts a word, and not after an underscore. -/
theorem startsWord_spec {prev c : Char} {rest : List Char} (h : startsWord prev c rest) :
    isUppercase c ∧ prev ≠ '_' := by
  rw [startsWord, Bool.and_eq_true, Bool.and_eq_true, bne_iff_ne] at h
  exact h.1

/-- Snake case holds underscores and lowered characters alone. -/
theorem mem_snake {cs : List Char} {d : Char} (hd : d ∈ snake cs) :
    d = '_' ∨ ∃ c ∈ cs, d = c.toLower := by
  rw [← writeMarked_marks, writeMarked, List.mem_flatMap] at hd
  obtain ⟨m, hm, hd⟩ := hd
  have hchar : m.char ∈ cs := map_char_marks cs ▸ List.mem_map_of_mem hm
  rw [Marked.write] at hd
  split at hd
  · rcases List.mem_cons.mp hd with rfl | hd
    · exact .inl rfl
    · exact .inr ⟨m.char, hchar, List.mem_singleton.mp hd⟩
  · exact .inr ⟨m.char, hchar, List.mem_singleton.mp hd⟩

/-! ### ASCII texts -/

section

variable {cs : List Char} (h : ∀ c ∈ cs, c.toNat < 128)
include h

/-- **Snake case inserts underscores** and lowers characters. -/
theorem isUnderscored_snake : IsUnderscored cs (snake cs) := by
  refine ⟨marks cs, map_char_marks cs, writeMarked_marks cs, fun before m after hms hm => ?_⟩
  have hchars : (before ++ m :: after).map Marked.char = cs := hms ▸ map_char_marks cs
  cases cs with
  | nil => exact absurd (congrArg List.length hms) (by simp [marks])
  | cons c cs =>
      cases before with
      | nil =>
          obtain ⟨rfl, -⟩ := List.cons.inj hms
          cases hm
      | cons b before =>
          obtain ⟨rfl, hrest⟩ := List.cons.inj hms
          rw [isMarked_of_marksAfter hrest] at hm
          obtain ⟨hupper, hprev⟩ := startsWord_spec hm
          have hascii : m.char.toNat < 128 := by
            refine h _ (hchars ▸ List.mem_map_of_mem ?_)
            simp
          have hcapital : IsCapital m.char := isCapital_of_isUppercase hascii hupper
          refine ⟨by simp, hcapital, ?_, hcapital.toLower_ne_underscore⟩
          rw [getLast?_writeMarked_cons]
          intro hlast
          refine hprev (toLower_eq_underscore (h _ ?_) (Option.some.inj hlast))
          -- The character before the mark is one of the text.
          rw [← hchars, List.map_append]
          exact List.mem_append_left _ List.getLastD_mem_cons

/-- Snake case has neither capitals nor anything else that lowering changes. -/
theorem lowered_of_mem_snake {d : Char} (hd : d ∈ snake cs) :
    isUppercase d = false ∧ d.toLower = d := by
  rcases mem_snake hd with rfl | ⟨c, hc, rfl⟩
  · decide
  · exact toLower_ascii (h c hc)

end

/-! ### Lower-case texts -/

/-- A text without capitals is kept. -/
theorem snakeAfter_eq_self {cs : List Char} (h : ∀ c ∈ cs, isUppercase c = false ∧ c.toLower = c)
    (prev : Char) : snakeAfter prev cs = cs := by
  induction cs generalizing prev with
  | nil => rfl
  | cons c cs ih =>
      obtain ⟨⟨hupper, hlower⟩, hcs⟩ := List.forall_mem_cons.mp h
      have hstarts : ¬ startsWord prev c cs := by simp [startsWord, hupper]
      rw [snakeAfter, if_neg hstarts, hlower, ih hcs]

/-- A text without capitals is its own snake case. -/
theorem snake_eq_self {cs : List Char} (h : ∀ c ∈ cs, isUppercase c = false ∧ c.toLower = c) :
    snake cs = cs := by
  cases cs with
  | nil => rfl
  | cons c cs =>
      obtain ⟨⟨-, hlower⟩, hcs⟩ := List.forall_mem_cons.mp h
      rw [snake, hlower, snakeAfter_eq_self hcs]

/-- The snake case of an identifier is one. -/
theorem isIdentifier_toSnakeCase {s : String} (h : isIdentifier s.toList) :
    isIdentifier (toSnakeCase s).toList := by
  rw [toSnakeCase, String.toList_ofList]
  cases hs : s.toList with
  | nil => exact absurd hs (ne_nil_of_isIdentifier h)
  | cons c cs =>
      rw [hs] at h
      obtain ⟨hstart, hrest⟩ := isIdentifier_cons_iff.mp h
      exact isIdentifier_cons_iff.mpr ⟨isIdentifierStart_toLower hstart, isWord_snakeAfter hrest c⟩

/-! ### Without underscores -/

/-- A text without its underscores. -/
def eraseUnderscores (cs : List Char) : List Char :=
  cs.filter (· != '_')

theorem eraseUnderscores_append (cs ds : List Char) :
    eraseUnderscores (cs ++ ds) = eraseUnderscores cs ++ eraseUnderscores ds :=
  List.filter_append cs ds

/-- But for underscores, writing marked characters only lowers them. -/
theorem eraseUnderscores_writeMarked (ms : List Marked) :
    eraseUnderscores (writeMarked ms) =
      eraseUnderscores ((ms.map Marked.char).map Char.toLower) := by
  induction ms with
  | nil => rfl
  | cons m ms ih =>
      have hwrite : eraseUnderscores m.write = eraseUnderscores [m.char.toLower] := by
        rw [Marked.write]
        cases m.isMarked with
        | false => rfl
        | true => rfl
      rw [writeMarked_cons, eraseUnderscores_append, hwrite, ih, ← eraseUnderscores_append]
      rfl

/-- **Snake case only adds underscores** to the text in lower case. -/
theorem eraseUnderscores_toSnakeCase (s : String) :
    eraseUnderscores (toSnakeCase s).toList = eraseUnderscores (s.toList.map Char.toLower) := by
  rw [toSnakeCase, String.toList_ofList, ← writeMarked_marks, eraseUnderscores_writeMarked,
    map_char_marks]

/-- What comes before a shape's name in its visit method, and the base type after it, are the same
for all shapes. -/
theorem eraseUnderscores_of_visitMethodSnake_eq {s s' : Shape} {base : String}
    (h : (s.resolve base).visitMethodSnake = (s'.resolve base).visitMethodSnake) :
    eraseUnderscores (s.name.toList.map Char.toLower) =
      eraseUnderscores (s'.name.toList.map Char.toLower) := by
  have hmethods : toSnakeCase (visitMethodName s.name base) =
      toSnakeCase (visitMethodName s'.name base) := h
  have herased : eraseUnderscores ((visitMethodName s.name base).toList.map Char.toLower) =
      eraseUnderscores ((visitMethodName s'.name base).toList.map Char.toLower) := by
    rw [← eraseUnderscores_toSnakeCase, hmethods, eraseUnderscores_toSnakeCase]
  simp only [visitMethodName, String.toList_append, List.map_append,
    eraseUnderscores_append] at herased
  exact List.append_cancel_left (List.append_cancel_right herased)

/-! ### Snake case -/

/-- **Snake case only lowers and inserts isolated underscores.**  The snake case of an ASCII text
has no capital.  It is the text in lower case, with underscores that each stand directly before a
capital other than the first character, and next to no other underscore; without underscores it is
the text in lower case without underscores.  It is its own snake case, and an identifier if the text
is.  So if the visit methods of two shapes have the same snake case under one base type, the names
of the shapes differ in case and underscores only. -/
theorem toSnakeCase_inserts_underscores {s : String} (h : ∀ c ∈ s.toList, c.toNat < 128) :
    (∀ d ∈ (toSnakeCase s).toList, isUppercase d = false) ∧
      IsUnderscored s.toList (toSnakeCase s).toList ∧
      eraseUnderscores (toSnakeCase s).toList = eraseUnderscores (s.toList.map Char.toLower) ∧
      toSnakeCase (toSnakeCase s) = toSnakeCase s ∧
      (isIdentifier s.toList → isIdentifier (toSnakeCase s).toList) ∧
      ∀ (shape shape' : Shape) (base : String),
        (shape.resolve base).visitMethodSnake = (shape'.resolve base).visitMethodSnake →
          eraseUnderscores (shape.name.toList.map Char.toLower) =
            eraseUnderscores (shape'.name.toList.map Char.toLower) := by
  have htext : (toSnakeCase s).toList = snake s.toList := String.toList_ofList
  refine ⟨fun d hd => ?_, ?_, eraseUnderscores_toSnakeCase s, ?_, isIdentifier_toSnakeCase,
    fun _ _ _ => eraseUnderscores_of_visitMethodSnake_eq⟩
  · rw [htext] at hd
    exact (lowered_of_mem_snake h hd).1
  · rw [htext]
    exact isUnderscored_snake h
  · have hfixed : snake (snake s.toList) = snake s.toList :=
      snake_eq_self fun d hd => lowered_of_mem_snake h hd
    rw [toSnakeCase, htext, hfixed, ← toSnakeCase]

/-- An acronym, a digit and an underscore before a capital; and two shapes that differ in an
underscore. -/
theorem toSnakeCase_inserts_underscores_acronym :
    toSnakeCase "ASTNode2_Of" = "ast_node2_of" ∧
      IsUnderscored "ASTNode2_Of".toList "ast_node2_of".toList ∧
      toSnakeCase "ast_node2_of" = "ast_node2_of" ∧
      isIdentifier "ast_node2_of".toList ∧
      (Shape.resolve "Expr" ⟨"IndexSet", []⟩).visitMethodSnake =
        (Shape.resolve "Expr" ⟨"Index_Set", []⟩).visitMethodSnake ∧
      eraseUnderscores ("IndexSet".toList.map Char.toLower) =
        eraseUnderscores ("Index_Set".toList.map Char.toLower) := by
  have hascii : ∀ c ∈ "ASTNode2_Of".toList, c.toNat < 128 := by simp
  have hsnake : toSnakeCase "ASTNode2_Of" = "ast_node2_of" := by decide +kernel
  have hmethods : (Shape.resolve "Expr" ⟨"IndexSet", []⟩).visitMethodSnake =
      (Shape.resolve "Expr" ⟨"Index_Set", []⟩).visitMethodSnake := by
    decide +kernel
  obtain ⟨-, hunderscored, -, hfixed, hidentifier, hcollision⟩ :=
    toSnakeCase_inserts_underscores hascii
  rw [hsnake] at hunderscored hfixed hidentifier
  exact ⟨hsnake, hunderscored, hfixed, hidentifier (by decide), hmethods,
    hcollision ⟨"IndexSet", []⟩ ⟨"Index_Set", []⟩ "Expr" hmethods⟩

end AstForge.Text
