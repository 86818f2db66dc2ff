import AstForge.Proofs.Text.Cut
import AstForge.Proofs.Text.Trim
import AstForge.Text.Identifier
import AstForge.Text.Lower
import AstForge.Text.Snake

/-!
# Text — words

A *word* is a text whose characters may all stand in an identifier.  Identifiers are words, and so
are the texts that the documents derive from them: the snake case and the lower-case form of a word
are words.  A word holds no blank, no separator and no bracket, which is what reading back a
declaration or a line of a document rests on.
-/

namespace AstForge.Text

/-- Every character of `cs` may continue an identifier. -/
def IsWord (cs : List Char) : Prop :=
  ∀ c ∈ cs, isIdentifierRest c

instance (cs : List Char) : Decidable (IsWord cs) :=
  List.decidableBAll _ cs

/-- A property of ASCII characters holds if it holds of the first 128 code points. -/
theorem forall_ascii {P : Char → Prop} (h : ∀ n < 128, P (Char.ofNat n)) {c : Char}
    (hc : c.toNat < 128) : P c := by
  have := h c.toNat hc
  rwa [Char.ofNat_toNat] at this

/-- The characters of identifiers are ASCII. -/
theorem isIdentifierRest_ascii {c : Char} (h : isIdentifierRest c) : c.toNat < 128 := by
  delta isIdentifierRest Char.isAlphanum Char.isAlpha Char.isUpper Char.isLower Char.isDigit at h
  simp only [Bool.or_eq_true, Bool.and_eq_true, decide_eq_true_eq, beq_iff_eq,
    UInt32.le_iff_toNat_le, ge_iff_le] at h
  -- Each class of letters and digits is a range, and its upper end lies below 128.
  rcases h with ((h | h) | h) | rfl
  · exact Nat.lt_of_le_of_lt h.2 (by decide)
  · exact Nat.lt_of_le_of_lt h.2 (by decide)
  · exact Nat.lt_of_le_of_lt h.2 (by decide)
  · decide

/-- No character of an identifier is blank. -/
theorem isBlank_of_isIdentifierRest {c : Char} (h : isIdentifierRest c) : isBlank c = false :=
  forall_ascii (P := fun c => isIdentifierRest c → isBlank c = false) (by decide)
    (isIdentifierRest_ascii h) h

theorem isIdentifierRest_toLower {c : Char} (h : isIdentifierRest c) :
    isIdentifierRest c.toLower :=
  forall_ascii (P := fun c => isIdentifierRest c → isIdentifierRest c.toLower) (by decide)
    (isIdentifierRest_ascii h) h

namespace IsWord

/-- Words, one after the other, are a word. -/
theorem append {cs ds : List Char} (hc : IsWord cs) (hd : IsWord ds) : IsWord (cs ++ ds) := by
  intro c h
  rcases List.mem_append.mp h with h | h
  · exact hc c h
  · exact hd c h

/-- A character that stands in no identifier stands in no word. -/
theorem notMem {cs : List Char} (h : IsWord cs) {c : Char} (hc : isIdentifierRest c = false) :
    c ∉ cs := fun hm => by
  rw [h c hm] at hc
  cases hc

theorem newline_notMem {cs : List Char} (h : IsWord cs) : '\n' ∉ cs :=
  h.notMem (by decide)

theorem isBlank {cs : List Char} (h : IsWord cs) : ∀ c ∈ cs, isBlank c = false :=
  fun c hc => isBlank_of_isIdentifierRest (h c hc)

theorem trimmed {cs : List Char} (h : IsWord cs) : Trimmed cs :=
  ⟨fun c hc => h.isBlank c (List.mem_of_mem_head? hc),
    fun c hc => h.isBlank c (List.mem_of_getLast? hc)⟩

/-- A word is told apart from what follows it by the first character that stands in no word. -/
theorem append_cons_inj {w w' r r' : List Char} {c c' : Char} (hw : IsWord w) (hw' : IsWord w')
    (hc : isIdentifierRest c = false) (hc' : isIdentifierRest c' = false)
    (h : w ++ c :: r = w' ++ c' :: r') : w = w' ∧ c = c' ∧ r = r' :=
  Text.append_cons_inj (p := fun c => !isIdentifierRest c) (fun x hx => by simp [hw x hx])
    (by simp [hc]) (fun x hx => by simp [hw' x hx]) (by simp [hc']) h

end IsWord

/-! ### Identifiers -/

/-- An identifier is a word. -/
theorem isWord_of_isIdentifier {cs : List Char} (h : isIdentifier cs) : IsWord cs := by
  cases cs with
  | nil => cases h
  | cons c cs =>
      simp only [isIdentifier, Bool.and_eq_true, List.all_eq_true] at h
      intro d hd
      rcases List.mem_cons.mp hd with rfl | hd
      · have hs := h.1
        simp only [isIdentifierStart, Bool.or_eq_true] at hs
        simp only [isIdentifierRest, Char.isAlphanum, Bool.or_eq_true]
        exact hs.imp_left Or.inl
      · exact h.2 d hd

theorem ne_nil_of_isIdentifier {cs : List Char} (h : isIdentifier cs) : cs ≠ [] := by
  rintro rfl
  cases h

/-- An identifier is a word that does not start with a digit. -/
theorem isIdentifier_cons_iff {c : Char} {cs : List Char} :
    isIdentifier (c :: cs) ↔ isIdentifierStart c ∧ IsWord cs := by
  rw [isIdentifier, Bool.and_eq_true, List.all_eq_true]
  rfl

/-- A word may follow an identifier. -/
theorem isIdentifier_append {cs ds : List Char} (hc : isIdentifier cs) (hd : IsWord ds) :
    isIdentifier (cs ++ ds) := by
  cases cs with
  | nil => cases hc
  | cons c cs =>
      obtain ⟨hstart, hrest⟩ := isIdentifier_cons_iff.mp hc
      exact isIdentifier_cons_iff.mpr ⟨hstart, hrest.append hd⟩

theorem isIdentifierStart_toLower {c : Char} (h : isIdentifierStart c) :
    isIdentifierStart c.toLower := by
  have hword : IsWord [c] := isWord_of_isIdentifier (isIdentifier_cons_iff.mpr ⟨h, nofun⟩)
  have hrest : isIdentifierRest c := hword c List.mem_cons_self
  exact forall_ascii (P := fun c => isIdentifierStart c → isIdentifierStart c.toLower) (by decide)
    (isIdentifierRest_ascii hrest) h

/-! ### The form of identifiers -/

/-- `c` is an ASCII letter. -/
def IsLetter (c : Char) : Prop :=
  ('A' ≤ c ∧ c ≤ 'Z') ∨ ('a' ≤ c ∧ c ≤ 'z')

/-- `c` is an ASCII digit. -/
def IsDigit (c : Char) : Prop :=
  '0' ≤ c ∧ c ≤ '9'

/-- `cs` is a letter or `_`, and then letters, digits and `_`. -/
def HasIdentifierForm (cs : List Char) : Prop :=
  ∃ c rest, cs = c :: rest ∧ (IsLetter c ∨ c = '_') ∧ ∀ d ∈ rest, IsLetter d ∨ IsDigit d ∨ d = '_'

theorem isAlpha_iff {c : Char} : c.isAlpha ↔ IsLetter c := by
  delta Char.isAlpha Char.isUpper Char.isLower
  simp only [Bool.or_eq_true, Bool.and_eq_true, decide_eq_true_eq, ge_iff_le]
  rfl

theorem isAlphanum_iff {c : Char} : c.isAlphanum ↔ IsLetter c ∨ IsDigit c := by
  delta Char.isAlphanum Char.isDigit
  rw [Bool.or_eq_true, isAlpha_iff]
  simp only [Bool.and_eq_true, decide_eq_true_eq, ge_iff_le]
  rfl

/-- **Identifiers** by their form: a letter or an underscore, and then letters, digits and
underscores. -/
theorem isIdentifier_iff_form {cs : List Char} : isIdentifier cs ↔ HasIdentifierForm cs := by
  cases cs with
  | nil => simp [isIdentifier, HasIdentifierForm]
  | cons c rest =>
      simp only [isIdentifier_cons_iff, HasIdentifierForm, IsWord, isIdentifierStart,
        isIdentifierRest, Bool.or_eq_true, beq_iff_eq, isAlpha_iff, isAlphanum_iff, or_assoc]
      constructor
      · rintro ⟨hc, hrest⟩
        exact ⟨c, rest, rfl, hc, hrest⟩
      · rintro ⟨d, rest', hcons, hd, hrest⟩
        obtain ⟨rfl, rfl⟩ := List.cons.inj hcons
        exact ⟨hd, hrest⟩

/-! ### Derived names -/

/-- The snake case of a word is a word, whatever stands before it. -/
theorem isWord_snakeAfter {cs : List Char} (h : IsWord cs) (prev : Char) :
    IsWord (snakeAfter prev cs) := by
  induction cs generalizing prev with
  | nil => simp [snakeAfter, IsWord]
  | cons c cs ih =>
      have hc := isIdentifierRest_toLower (h c List.mem_cons_self)
      have hcs := ih (fun d hd => h d (List.mem_cons_of_mem _ hd)) c
      rw [snakeAfter]
      split
      · intro d hd
        rcases List.mem_cons.mp hd with rfl | hd
        · decide
        · rcases List.mem_cons.mp hd with rfl | hd
          · exact hc
          · exact hcs d hd
      · intro d hd
        rcases List.mem_cons.mp hd with rfl | hd
        · exact hc
        · exact hcs d hd

theorem isWord_toSnakeCase {s : String} (h : IsWord s.toList) :
    IsWord (toSnakeCase s).toList := by
  rw [toSnakeCase, String.toList_ofList]
  cases hs : s.toList with
  | nil => simp [snake, IsWord]
  | cons c cs =>
      rw [hs] at h
      have hcs : IsWord cs := fun d hd => h d (List.mem_cons_of_mem _ hd)
      rw [snake]
      intro d hd
      rcases List.mem_cons.mp hd with rfl | hd
      · exact isIdentifierRest_toLower (h c List.mem_cons_self)
      · exact isWord_snakeAfter hcs c d hd

/-- A word is lowered character by character: it holds no sigma and nothing beyond ASCII. -/
theorem lowerAfter_of_isWord {cs : List Char} (h : IsWord cs) (before : List Char) :
    lowerAfter before cs = cs.map Char.toLower := by
  induction cs generalizing before with
  | nil => rfl
  | cons c cs ih =>
      have hc := h c List.mem_cons_self
      have hsigma : c ≠ 'Σ' := by
        rintro rfl
        revert hc
        decide
      rw [lowerAfter, ih fun d hd => h d (List.mem_cons_of_mem _ hd)]
      simp [hsigma, lowerChar, isIdentifierRest_ascii hc]

/-- A word stays a word when lowered. -/
theorem isWord_toLower {s : String} (h : IsWord s.toList) : IsWord (toLower s).toList := by
  rw [toLower, String.toList_ofList, lowerAfter_of_isWord h]
  intro d hd
  obtain ⟨c, hc, rfl⟩ := List.mem_map.mp hd
  exact isIdentifierRest_toLower (h c hc)

theorem isIdentifier_toLower {s : String} (h : isIdentifier s.toList) :
    isIdentifier (toLower s).toList := by
  rw [toLower, String.toList_ofList, lowerAfter_of_isWord (isWord_of_isIdentifier h)]
  cases hs : s.toList with
  | nil => rw [hs] at h; cases h
  | cons c cs =>
      rw [hs] at h
      obtain ⟨hstart, hrest⟩ := isIdentifier_cons_iff.mp h
      refine isIdentifier_cons_iff.mpr ⟨isIdentifierStart_toLower hstart, ?_⟩
      rw [IsWord, List.forall_mem_map]
      exact fun d hd => isIdentifierRest_toLower (hrest d hd)

/-! ### Lower case of any text -/

/-- No lower-case form lies at or below the slash. -/
theorem slash_lt_lowerRuns :
    lowerRuns.all (fun run => decide ('/'.toNat < run.capitals.first + run.offset)) := by
  decide +kernel

theorem ofNat_ne_slash {n : Nat} (h : '/'.toNat < n) : Char.ofNat n ≠ '/' := by
  intro heq
  by_cases hvalid : n.isValidChar
  · have hchar : Char.ofNat n = Char.ofNatAux n hvalid := dif_pos hvalid
    have hnat : '/'.toNat = n := congrArg Char.toNat (heq.symm.trans hchar)
    exact Nat.ne_of_lt h hnat
  · have hchar : Char.ofNat n = '\x00' := dif_neg hvalid
    exact absurd (heq.symm.trans hchar) (by decide)

theorem slash_notMem_lowerChar {c : Char} (h : c ≠ '/') : '/' ∉ lowerChar c := by
  rw [lowerChar]
  split
  · next hascii =>
      have hlower := forall_ascii (P := fun c => c ≠ '/' → '/' ≠ c.toLower) (by decide) hascii h
      exact fun hmem => hlower (List.mem_singleton.mp hmem)
  · split
    · decide
    · split
      · next run hrun =>
          have hoffset : ('/'.toNat : Int) < run.capitals.first + run.offset := by
            have hall := List.all_eq_true.mp slash_lt_lowerRuns run (List.mem_of_find?_eq_some hrun)
            exact of_decide_eq_true hall
          have hfirst : run.capitals.first ≤ c.toNat := by
            have hholds := List.find?_some hrun
            rw [Run.holds, Bool.and_eq_true, Bool.and_eq_true] at hholds
            exact of_decide_eq_true hholds.1.1
          have hform : '/'.toNat < (c.toNat + run.offset).toNat := by omega
          exact fun hmem => ofNat_ne_slash hform (List.mem_singleton.mp hmem).symm
      · exact fun hmem => h (List.mem_singleton.mp hmem).symm

/-- Lowering puts no slash into a text. -/
theorem slash_notMem_lowerAfter {cs : List Char} (h : '/' ∉ cs) (before : List Char) :
    '/' ∉ lowerAfter before cs := by
  induction cs generalizing before with
  | nil => exact h
  | cons c cs ih =>
      rw [List.mem_cons, not_or] at h
      rw [lowerAfter, List.mem_append, not_or]
      refine ⟨?_, ih h.2 _⟩
      split
      · split
        · decide
        · decide
      · exact slash_notMem_lowerChar (Ne.symm h.1)

/-- Lowering leaves something of every character. -/
theorem length_lowerChar_pos (c : Char) : 0 < (lowerChar c).length := by
  rw [lowerChar]
  split
  · exact Nat.one_pos
  · split
    · exact Nat.two_pos
    · split <;> exact Nat.one_pos

/-- Lower-casing drops no character. -/
theorem length_le_lowerAfter (before cs : List Char) :
    cs.length ≤ (lowerAfter before cs).length := by
  induction cs generalizing before with
  | nil => exact Nat.le_refl _
  | cons c cs ih =>
      rw [lowerAfter, List.length_append, List.length_cons, Nat.add_comm]
      refine Nat.add_le_add ?_ (ih _)
      split
      · exact Nat.le_refl _
      · exact length_lowerChar_pos c

end AstForge.Text
