import AstForge.Proofs.Text.Word

/-!
# Text — the snake case of camel case

A name in *camel case* is made of words, each a capital and then small letters or digits.  Its snake
case has an underscore before each word and is otherwise the name in lower case.  It can be read
back: an underscore and the letter after it stand for a capital (`readSnake_snakeAfter`).

What precedes a name matters only in its last character, and not even in that if it is a small
letter or a digit; so the words of a name, and whatever follows the name, are written one by one
(`snakeAfter_append_of_isCamelCase`).
-/

namespace AstForge.Text

/-- `c` is an ASCII capital. -/
def IsCapital (c : Char) : Prop :=
  'A' ≤ c ∧ c ≤ 'Z'

/-- `c` is a small ASCII letter or an ASCII digit. -/
def IsSmall (c : Char) : Prop :=
  ('a' ≤ c ∧ c ≤ 'z') ∨ IsDigit c

instance (c : Char) : Decidable (IsCapital c) :=
  inferInstanceAs (Decidable (_ ∧ _))

instance (c : Char) : Decidable (IsDigit c) :=
  inferInstanceAs (Decidable (_ ∧ _))

instance (c : Char) : Decidable (IsSmall c) :=
  inferInstanceAs (Decidable (_ ∨ _))

/-- A capital, and then one or more small letters or digits. -/
def IsCamelWord (cs : List Char) : Prop :=
  ∃ c rest, cs = c :: rest ∧ IsCapital c ∧ rest ≠ [] ∧ ∀ d ∈ rest, IsSmall d

/-- One or more words, one right after the other. -/
def IsCamelCase (cs : List Char) : Prop :=
  ∃ words ≠ [], cs = words.flatten ∧ ∀ w ∈ words, IsCamelWord w

/-! ### Characters -/

/-- A capital is upper case, and its small form has it as upper case. -/
theorem IsCapital.spec {c : Char} (h : IsCapital c) :
    isUppercase c ∧ c.toLower.toUpper = c :=
  have hascii : c.toNat < 128 := Nat.lt_of_le_of_lt h.2 (by decide)
  forall_ascii (P := fun c => IsCapital c → isUppercase c ∧ c.toLower.toUpper = c)
    (by decide) hascii h

/-- A small character is not changed, is no underscore and is a lower-case letter or a digit. -/
theorem IsSmall.spec {c : Char} (h : IsSmall c) :
    isUppercase c = false ∧ c ≠ '_' ∧ c.toLower = c ∧ (isLowercase c || c.isDigit) := by
  have hascii : c.toNat < 128 := by
    rcases h with h | h
    · exact Nat.lt_of_le_of_lt h.2 (by decide)
    · exact Nat.lt_of_le_of_lt h.2 (by decide)
  exact forall_ascii (P := fun c => IsSmall c →
    isUppercase c = false ∧ c ≠ '_' ∧ c.toLower = c ∧ (isLowercase c || c.isDigit))
    (by decide) hascii h

theorem map_toLower_of_smalls {w : List Char} (h : ∀ c ∈ w, IsSmall c) :
    w.map Char.toLower = w :=
  (List.map_congr_left fun c hc => (h c hc).spec.2.2.1).trans (List.map_id w)

/-! ### Writing words -/

/-- After a small character every capital starts a word. -/
theorem startsWord_of_isSmall {prev : Char} (h : IsSmall prev) (c : Char) (rest : List Char) :
    startsWord prev c rest = isUppercase c := by
  obtain ⟨-, hunderscore, -, hends⟩ := h.spec
  simp only [startsWord, hends, Bool.true_or, bne_iff_ne.mpr hunderscore, Bool.and_true]

/-- A small letter or digit before a text is as good as any other. -/
theorem snakeAfter_eq_of_isSmall {prev prev' : Char} (h : IsSmall prev) (h' : IsSmall prev')
    (cs : List Char) : snakeAfter prev cs = snakeAfter prev' cs := by
  cases cs with
  | nil => rfl
  | cons c cs => rw [snakeAfter, snakeAfter, startsWord_of_isSmall h, startsWord_of_isSmall h']

theorem snakeAfter_small {c : Char} (h : IsSmall c) (prev : Char) (cs : List Char) :
    snakeAfter prev (c :: cs) = c :: snakeAfter c cs := by
  obtain ⟨hupper, -, hlower, -⟩ := h.spec
  have hstarts : ¬ startsWord prev c cs := by simp [startsWord, hupper]
  rw [snakeAfter, if_neg hstarts, hlower]

section

variable {prev : Char} (hprev : IsSmall prev)
include hprev

theorem snakeAfter_smalls_append {w : List Char} (hw : ∀ c ∈ w, IsSmall c) (cs : List Char) :
    snakeAfter prev (w ++ cs) = w ++ snakeAfter prev cs := by
  induction w generalizing prev with
  | nil => rfl
  | cons c w ih =>
      obtain ⟨hc, hw⟩ := List.forall_mem_cons.mp hw
      rw [List.cons_append, snakeAfter_small hc, ih hc hw, snakeAfter_eq_of_isSmall hc hprev,
        List.cons_append]

/-- **A word.**  It gets an underscore and is written in lower case. -/
theorem snakeAfter_word_append {w : List Char} (hw : IsCamelWord w) (cs : List Char) :
    snakeAfter prev (w ++ cs) = '_' :: w.map Char.toLower ++ snakeAfter prev cs := by
  obtain ⟨c, rest, rfl, hc, hne, hrest⟩ := hw
  obtain ⟨d, rest, rfl⟩ := List.exists_cons_of_ne_nil hne
  have hlower := map_toLower_of_smalls hrest
  obtain ⟨hd, hrest⟩ := List.forall_mem_cons.mp hrest
  have hstarts : startsWord prev c (d :: rest ++ cs) :=
    (startsWord_of_isSmall hprev c _).trans hc.spec.1
  -- The letter after the capital is small, so it starts no word although a capital precedes it.
  have hsmalls : snakeAfter c (d :: rest ++ cs) = d :: rest ++ snakeAfter prev cs := by
    rw [List.cons_append, snakeAfter_small hd, snakeAfter_smalls_append hd hrest,
      snakeAfter_eq_of_isSmall hd hprev, List.cons_append]
  rw [List.cons_append, snakeAfter, if_pos hstarts, hsmalls, List.map_cons, hlower]
  rfl

/-- Each word of a conventional name is written small after an underscore. -/
theorem snakeAfter_words_append {words : List (List Char)} (h : ∀ w ∈ words, IsCamelWord w)
    (cs : List Char) :
    snakeAfter prev (words.flatten ++ cs) =
      words.flatMap (fun w => '_' :: w.map Char.toLower) ++ snakeAfter prev cs := by
  induction words with
  | nil => rfl
  | cons w words ih =>
      obtain ⟨hw, hwords⟩ := List.forall_mem_cons.mp h
      rw [List.flatten_cons, List.append_assoc, snakeAfter_word_append hprev hw, ih hwords,
        List.flatMap_cons, List.append_assoc]

/-- A name in camel case and what follows it are written one after the other. -/
theorem snakeAfter_append_of_isCamelCase {name : List Char} (h : IsCamelCase name)
    (cs : List Char) :
    snakeAfter prev (name ++ cs) = snakeAfter prev name ++ snakeAfter prev cs := by
  obtain ⟨words, -, rfl, hwords⟩ := h
  have hname := snakeAfter_words_append hprev hwords []
  rw [List.append_nil] at hname
  rw [snakeAfter_words_append hprev hwords, hname, snakeAfter, List.append_nil]

end

/-- The snake case of a visit method starts as the method does. -/
theorem toSnakeCase_visit (name : String) :
    toSnakeCase ("visit" ++ name) = "visit" ++ String.ofList (snakeAfter 't' name.toList) := by
  have hi : IsSmall 'i' := by decide
  have hs : IsSmall 's' := by decide
  have ht : IsSmall 't' := by decide
  rw [← String.toList_inj]
  simp [toSnakeCase, snake, snakeAfter_small hi, snakeAfter_small hs, snakeAfter_small ht]

/-! ### Reading snake case back -/

/-- The text in which each underscore and the letter after it are one capital. -/
def readSnake : List Char → List Char
  | [] => []
  | '_' :: c :: cs => c.toUpper :: readSnake cs
  | c :: cs => c :: readSnake cs

theorem readSnake_smalls_append {w : List Char} (h : ∀ c ∈ w, IsSmall c) (cs : List Char) :
    readSnake (w ++ cs) = w ++ readSnake cs := by
  induction w with
  | nil => rfl
  | cons c w ih =>
      obtain ⟨hc, hw⟩ := List.forall_mem_cons.mp h
      rw [List.cons_append, readSnake, ih hw, List.cons_append]
      intro d ds hunderscore
      exact absurd hunderscore hc.spec.2.1

/-- A word is read back from its snake case. -/
theorem readSnake_word_append {w : List Char} (h : IsCamelWord w) (cs : List Char) :
    readSnake ('_' :: w.map Char.toLower ++ cs) = w ++ readSnake cs := by
  obtain ⟨c, rest, rfl, hc, -, hrest⟩ := h
  rw [List.map_cons, map_toLower_of_smalls hrest, List.cons_append, List.cons_append, readSnake,
    readSnake_smalls_append hrest, hc.spec.2, List.cons_append]

/-- **Words are read back**, so that different names have different snake cases. -/
theorem readSnake_words {words : List (List Char)} (h : ∀ w ∈ words, IsCamelWord w) :
    readSnake (words.flatMap fun w => '_' :: w.map Char.toLower) = words.flatten := by
  induction words with
  | nil => rfl
  | cons w words ih =>
      obtain ⟨hw, hwords⟩ := List.forall_mem_cons.mp h
      rw [List.flatMap_cons, readSnake_word_append hw, ih hwords, List.flatten_cons]

/-- **Reading back.**  The snake case of a name in camel case determines the name. -/
theorem readSnake_snakeAfter {prev : Char} (hprev : IsSmall prev) {name : List Char}
    (h : IsCamelCase name) : readSnake (snakeAfter prev name) = name := by
  obtain ⟨words, -, rfl, hwords⟩ := h
  have hname := snakeAfter_words_append hprev hwords []
  rw [List.append_nil, snakeAfter, List.append_nil] at hname
  rw [hname, readSnake_words hwords]

end AstForge.Text
