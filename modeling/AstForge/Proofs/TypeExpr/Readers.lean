import Mathlib.Data.List.Basic
import AstForge.Proofs.Text.Word
import AstForge.TypeExpr.Lexer

/-!
# Type expressions — readers and what follows a text

A reader stops at the end of what it reads, so it reads the same from a longer text, provided that
what follows starts with a character that ends every word, number and literal.

* `readName_append`, `readNumber_append`: a word and a number are read alike, or not at all, with
  and without what follows.
* `readLiteral_append`: a literal that is read is read alike from the longer text. A string that is
  not closed may be closed by what follows, so only this direction holds.
* `readLiteral_eq_none`: a word whose start is not that of a string starts no literal.
-/

namespace AstForge.TypeExpr

/-- The characters that may change how the text before them is read, letters and digits apart. -/
def boundMarks : List Char :=
  ['\'', '"', '#', '.', '+', '-', '/', '*', '!', '(', '\n', '\ufeff']

/-- A character that belongs to no word, number or literal before it. -/
structure Breaks (c : Char) : Prop where
  start : isWordStart c = false
  rest : isWordRest c = false
  digit : hexValue? c = none
  mark : c ∉ boundMarks

instance (c : Char) : Decidable (Breaks c) :=
  decidable_of_iff
    (isWordStart c = false ∧ isWordRest c = false ∧ hexValue? c = none ∧ c ∉ boundMarks)
    ⟨fun ⟨start, rest, digit, mark⟩ => ⟨start, rest, digit, mark⟩,
      fun h => ⟨h.start, h.rest, h.digit, h.mark⟩⟩

namespace Breaks

variable {c : Char} (hc : Breaks c) (k : List Char)
include hc

theorem isDigit : c.isDigit = false := by
  have h := hc.digit
  rw [hexValue?] at h
  split at h
  · cases h
  · next hd => simpa using hd

theorem ne_underscore : c ≠ '_' := by
  rintro rfl
  exact absurd hc.start (by decide)

/-- A character that breaks starts no word. -/
theorem ne_of_start {d : Char} (hd : isWordStart d = true) : c ≠ d := by
  rintro rfl
  simp [hc.start] at hd

/-- A character that breaks is none of the marks that may change what stands before them. -/
theorem ne_of_mem {d : Char} (hd : d ∈ boundMarks) : c ≠ d := by
  rintro rfl
  exact hc.mark hd

theorem isDigitRest : isDigitRest c = false := by
  simp [TypeExpr.isDigitRest, hc.isDigit, hc.ne_underscore]

end Breaks

/-- A stretch ends at a character outside its class. -/
theorem takeWhile_append_cons {p : Char → Bool} {c : Char} (hp : p c = false) (cs k : List Char) :
    (cs ++ c :: k).takeWhile p = cs.takeWhile p := by
  induction cs with
  | nil => simp [hp]
  | cons d cs ih =>
      by_cases hd : p d
      · simp [hd, ih]
      · simp [hd]

/-- What follows a stretch goes on with a character outside its class. -/
theorem dropWhile_append_cons {p : Char → Bool} {c : Char} (hp : p c = false) (cs k : List Char) :
    (cs ++ c :: k).dropWhile p = cs.dropWhile p ++ c :: k := by
  induction cs with
  | nil => simp [hp]
  | cons d cs ih =>
      by_cases hd : p d
      · simp [hd, ih]
      · simp [hd]

theorem any_head?_append_cons {p : Char → Bool} {c : Char} (hp : p c = false) (cs k : List Char) :
    (cs ++ c :: k).head?.any p = cs.head?.any p := by
  cases cs with
  | nil => simp [hp]
  | cons d cs => rfl

/-- A text that starts with two given characters does so without what follows it. -/
theorem exists_of_append_cons_eq {a b c : Char} (ha : c ≠ a) (hb : c ≠ b)
    {cs k rest : List Char} (h : cs ++ c :: k = a :: b :: rest) :
    ∃ rest', cs = a :: b :: rest' ∧ rest = rest' ++ c :: k := by
  match cs with
  | [] => exact absurd (List.cons.inj h).1 ha
  | [d] => exact absurd (List.cons.inj (List.cons.inj h).2).1 hb
  | d :: e :: cs =>
    simp only [List.cons_append, List.cons.injEq] at h
    obtain ⟨rfl, rfl, rfl⟩ := h
    exact ⟨cs, rfl, rfl⟩

section

variable {c : Char} (hc : Breaks c) (k : List Char)
include hc

/-! ### Words -/

/-- A word ends before a character that breaks. -/
theorem readWord_append (cs : List Char) :
    readWord (cs ++ c :: k) = (readWord cs).map fun p => (p.1, p.2 ++ c :: k) := by
  cases cs with
  | nil => simp [readWord, hc.start]
  | cons d cs =>
      by_cases hd : isWordStart d
      · simp [readWord, hd, takeWhile_append_cons hc.rest, dropWhile_append_cons hc.rest]
      · simp [readWord, hd]

/-- So does a name, raw or not. -/
theorem readName_append (cs : List Char) :
    readName (cs ++ c :: k) = (readName cs).map fun p => (p.1, p.2 ++ c :: k) := by
  fun_cases readName cs with
  | case1 cs word rest hw hraw => simpa [readName, readWord_append hc, hw] using hraw
  | case2 cs word rest hw hraw => simpa [readName, readWord_append hc, hw] using hraw
  | case3 cs hw => simp [readName, readWord_append hc, hw]
  | case4 _ hne =>
      rw [readName.eq_2, readWord_append hc]
      intro cs' h
      obtain ⟨rest, rfl, -⟩ := exists_of_append_cons_eq (hc.ne_of_start (by decide))
        (hc.ne_of_mem (by decide)) h
      exact hne rest rfl

/-- So does the suffix of a literal. -/
theorem dropSuffix_append (cs : List Char) :
    dropSuffix (cs ++ c :: k) = dropSuffix cs ++ c :: k := by
  rw [dropSuffix, readWord_append hc, dropSuffix]
  cases readWord cs with
  | none => rfl
  | some p => rfl

/-! ### Numbers -/

/-- An exponent ends before a character that breaks. -/
theorem readExponent_append (cs : List Char) :
    readExponent (cs ++ c :: k) = (readExponent cs).map (· ++ c :: k) := by
  have hblank : ∀ cs : List Char,
      (cs ++ c :: k).dropWhile (· == '_') = cs.dropWhile (· == '_') ++ c :: k :=
    fun cs => dropWhile_append_cons (p := (· == '_')) (by simpa using hc.ne_underscore) cs k
  have hplus : c ≠ '+' := hc.ne_of_mem (by decide)
  have hminus : c ≠ '-' := hc.ne_of_mem (by decide)
  -- What is left of the exponent after its sign, before and with the continuation.
  have hdigits : ∀ r : List Char,
      (if (r ++ c :: k).head?.any Char.isDigit then some ((r ++ c :: k).dropWhile isDigitRest)
        else none) =
      (if r.head?.any Char.isDigit then some (r.dropWhile isDigitRest) else none).map
        (· ++ c :: k) := by
    intro r
    rw [any_head?_append_cons hc.isDigit, dropWhile_append_cons hc.isDigitRest]
    split <;> rfl
  rw [readExponent, readExponent, hblank]
  rcases cs.dropWhile (· == '_') with _ | ⟨d, r⟩
  · simp [hplus, hminus, hc.isDigit]
  · by_cases hd : d = '+'
    · subst hd
      simp only [List.cons_append, hblank]
      exact hdigits _
    · by_cases hd' : d = '-'
      · subst hd'
        simp only [List.cons_append, hblank]
        exact hdigits _
      · have hrest := dropWhile_append_cons hc.isDigitRest (d :: r) k
        rw [List.cons_append] at hrest
        simp [hd, hd', hrest]

theorem isExponentMark_eq_false : isExponentMark c = false := by
  have he : c ≠ 'e' := hc.ne_of_start (by decide)
  have hE : c ≠ 'E' := hc.ne_of_start (by decide)
  simp [isExponentMark, he, hE]

/-- A number with a point or an exponent ends before a character that breaks. -/
theorem readFloat_append (cs : List Char) :
    readFloat (cs ++ c :: k) = (readFloat cs).map (· ++ c :: k) := by
  have hpoint : c ≠ '.' := hc.ne_of_mem (by decide)
  have hnext : ∀ cs : List Char, (cs ++ c :: k).head?.any (fun c => c == '.' || isWordStart c) =
      cs.head?.any fun c => c == '.' || isWordStart c :=
    fun cs => any_head?_append_cons (p := fun c => c == '.' || isWordStart c)
      (by simp [hpoint, hc.start]) cs k
  have hmark := isExponentMark_eq_false hc
  rw [readFloat, readFloat, any_head?_append_cons hc.isDigit,
    dropWhile_append_cons hc.isDigitRest]
  split
  · rfl
  · rcases cs.dropWhile isDigitRest with _ | ⟨d, r⟩
    · simp [hmark]
    · by_cases hd : d = '.'
      · subst hd
        simp only [List.cons_append, hnext, dropWhile_append_cons hc.isDigitRest]
        split
        · rfl
        · rcases r.dropWhile isDigitRest with _ | ⟨e, r'⟩
          · simp [hmark]
          · by_cases he : isExponentMark e
            · cases hr : readExponent r' with
              | none => simp [he, readExponent_append hc, hr]
              | some r'' => simp [he, readExponent_append hc, hr]
            · simp [he]
      · by_cases he : isExponentMark d
        · simp [he, readExponent_append hc]
        · simp [he]

/-- Digits end before a character that breaks, in every base. -/
theorem readDigits_append (base : Nat) (seen : Bool) (cs : List Char) :
    readDigits base seen (cs ++ c :: k) = (readDigits base seen cs).map (· ++ c :: k) := by
  have hblank : (c == '_') = false := by simpa using hc.ne_underscore
  induction cs generalizing seen with
  | nil => cases seen <;> simp [readDigits, hblank, hc.digit]
  | cons d cs ih =>
      simp only [List.cons_append, readDigits]
      split
      · split
        · rfl
        · exact ih seen
      · cases hexValue? d with
        | none => cases seen <;> rfl
        | some v =>
            simp only
            split
            · exact ih true
            · split
              · rfl
              · cases seen <;> rfl

/-- A whole number ends before a character that breaks. -/
theorem readInteger_append (cs : List Char) :
    readInteger (cs ++ c :: k) = (readInteger cs).map (· ++ c :: k) := by
  have hzero : c ≠ '0' := by
    rintro rfl
    exact absurd hc.isDigit (by decide)
  fun_cases readInteger cs with
  | case1 cs => exact readDigits_append hc k 16 false cs
  | case2 cs => exact readDigits_append hc k 8 false cs
  | case3 cs => exact readDigits_append hc k 2 false cs
  | case4 _ hx ho hb =>
      rw [readInteger.eq_4]
      · exact readDigits_append hc k 10 false cs
      · intro cs' h
        obtain ⟨rest, rfl, -⟩ := exists_of_append_cons_eq hzero (hc.ne_of_start (by decide)) h
        exact hx rest rfl
      · intro cs' h
        obtain ⟨rest, rfl, -⟩ := exists_of_append_cons_eq hzero (hc.ne_of_start (by decide)) h
        exact ho rest rfl
      · intro cs' h
        obtain ⟨rest, rfl, -⟩ := exists_of_append_cons_eq hzero (hc.ne_of_start (by decide)) h
        exact hb rest rfl

/-- A number that a word follows directly is none, and what breaks is no word. -/
theorem endNumber_append (cs : List Char) :
    endNumber (cs ++ c :: k) = (endNumber cs).map (· ++ c :: k) := by
  rw [endNumber, endNumber, readWord_append hc, any_head?_append_cons hc.rest]
  cases readWord cs with
  | none => simp only [Option.map_none]; split <;> rfl
  | some p => rfl

/-- **Numbers** are read alike with more behind them. -/
theorem readNumber_append (cs : List Char) :
    readNumber (cs ++ c :: k) = (readNumber cs).map fun p => (p.1, p.2 ++ c :: k) := by
  have hbind : ∀ r : Option (List Char),
      (r.map (· ++ c :: k)).bind endNumber = (r.bind endNumber).map (· ++ c :: k) := by
    intro r
    cases r with
    | none => rfl
    | some r => exact endNumber_append hc k r
  have htake : ∀ rest : List Char,
      (cs ++ c :: k).take ((cs ++ c :: k).length - (rest ++ c :: k).length) =
        cs.take (cs.length - rest.length) := by
    intro rest
    rw [List.length_append, List.length_append, Nat.add_sub_add_right]
    exact List.take_append_of_le_length (Nat.sub_le _ _)
  rw [readNumber, readNumber, readFloat_append hc, readInteger_append hc, hbind, hbind]
  cases (readFloat cs).bind endNumber with
  | some rest => simp only [Option.map_some, Option.some_or, htake]
  | none =>
      cases (readInteger cs).bind endNumber with
      | some rest => simp only [Option.map_some, Option.map_none, Option.none_or, htake]
      | none => rfl

end

/-! ### Strings and characters -/

theorem head?_append_of_eq_some {cs k : List Char} {d : Char} (h : (cs.head? == some d) = true) :
    ((cs ++ k).head? == some d) = true := by
  cases cs with
  | nil => cases h
  | cons e cs => exact h

/-- A code point in braces is read alike with more behind it. -/
theorem readCodePoint_append (k : List Char) {digits value v : Nat} {cs rest : List Char}
    (h : readCodePoint digits value cs = some (v, rest)) :
    readCodePoint digits value (cs ++ k) = some (v, rest ++ k) := by
  induction cs generalizing digits value with
  | nil => cases h
  | cons c cs ih =>
      rw [readCodePoint] at h
      rw [List.cons_append, readCodePoint]
      cases hv : hexValue? c with
      | some d =>
          simp only [hv] at h ⊢
          split at h
          · next hlt => rw [if_pos hlt]; exact ih h
          · cases h
      | none =>
          simp only [hv] at h ⊢
          split at h
          · cases h
          · next hz =>
              rw [if_neg hz]
              split at h
              · next hu => rw [if_pos hu]; exact ih h
              · next hu =>
                  rw [if_neg hu]
                  split at h
                  · next hend =>
                      rw [if_pos hend]
                      cases h
                      rfl
                  · cases h

/-- An escape is read alike with more behind it. -/
theorem readEscape_append (encoding : Encoding) (k : List Char) {cs rest : List Char}
    (h : readEscape encoding cs = some rest) :
    readEscape encoding (cs ++ k) = some (rest ++ k) := by
  revert h
  fun_cases readEscape encoding cs with
  | case1 a b cs high low hlow hhigh hbyte =>
      rintro ⟨⟩
      simp [readEscape, hlow, hhigh, hbyte]
  | case4 cs value rest' hread hallowed =>
      rintro ⟨⟩
      simp [readEscape, readCodePoint_append k hread, hallowed]
  | case7 c cs hx hu hescaped =>
      rintro ⟨⟩
      rw [List.cons_append, readEscape.eq_3, if_pos hescaped]
      · rintro a b cs' rfl
        cases encoding <;> cases hescaped
      · rintro cs' rfl
        cases encoding <;> cases hescaped
  | _ => exact nofun

/-- A quoted text is read alike with more behind it, and more fuel does not matter. -/
theorem readQuoted_append (encoding : Encoding) (m : Nat) (k : List Char) {n : Nat}
    {cs rest : List Char} (h : readQuoted encoding n cs = some rest) :
    readQuoted encoding (n + m) (cs ++ k) = some (rest ++ k) := by
  induction n generalizing cs rest with
  | zero => cases h
  | succ n ih =>
      rw [Nat.succ_add]
      cases cs with
      | nil => cases h
      | cons c cs =>
          rw [List.cons_append]
          by_cases hquote : c = '"'
          · subst hquote
            cases h
            rfl
          by_cases hreturn : c = '\r'
          · subst hreturn
            obtain ⟨hline, h⟩ := Option.ite_none_right_eq_some.mp h
            rw [readQuoted, if_pos (head?_append_of_eq_some hline), ih h]
          by_cases hslash : c = '\\'
          · subst hslash
            cases cs with
            | nil =>
                obtain ⟨-, h⟩ := Option.ite_none_right_eq_some.mp h
                cases n <;> cases h
            | cons d cs =>
                rw [readQuoted] at h
                rw [List.cons_append, readQuoted]
                split at h
                · next hline => rw [if_pos hline, ih h]
                · next hline =>
                    rw [if_neg hline]
                    split at h
                    · next hreturn =>
                        obtain ⟨hnext, h⟩ := Option.ite_none_right_eq_some.mp h
                        rw [if_pos hreturn, if_pos (head?_append_of_eq_some hnext), ih h]
                    · next hreturn =>
                        obtain ⟨rest', hescape, h⟩ := Option.bind_eq_some_iff.mp h
                        have hescape := readEscape_append encoding k hescape
                        rw [if_neg hreturn, ← List.cons_append, hescape]
                        exact ih h
          · have hplain : ∀ cs d (ds : List Char), c = '\\' → cs = d :: ds → False :=
              fun _ _ _ hc _ => hslash hc
            rw [readQuoted.eq_6 _ _ _ _ hquote hreturn (hplain cs)] at h
            obtain ⟨hallowed, h⟩ := Option.ite_none_right_eq_some.mp h
            rw [readQuoted.eq_6 _ _ _ _ hquote hreturn (hplain (cs ++ k)), if_pos hallowed, ih h]

/-- Another character adds nothing to a run of one character. -/
theorem take_append_cons_eq_replicate_iff {c d : Char} (hc : c ≠ d) (k cs : List Char) (n : Nat) :
    (cs ++ c :: k).take n = List.replicate n d ↔ cs.take n = List.replicate n d := by
  induction cs generalizing n with
  | nil => cases n <;> simp [List.replicate_succ, hc]
  | cons e cs ih =>
      cases n with
      | zero => simp
      | succ n => simp [List.replicate_succ, ih]

/-- A raw text is read alike with more behind it, unless this starts with a `#`. -/
theorem readRaw_append (encoding : Encoding) (hashes : Nat) {c : Char} (hc : c ≠ '#')
    (k : List Char) {cs rest : List Char} (h : readRaw encoding hashes cs = some rest) :
    readRaw encoding hashes (cs ++ c :: k) = some (rest ++ c :: k) := by
  induction cs with
  | nil => cases h
  | cons d cs ih =>
      rw [readRaw] at h
      rw [List.cons_append, readRaw]
      have hclose : ((cs ++ c :: k).take hashes == List.replicate hashes '#') =
          (cs.take hashes == List.replicate hashes '#') := by
        rw [Bool.eq_iff_iff, beq_iff_eq, beq_iff_eq]
        exact take_append_cons_eq_replicate_iff hc k cs hashes
      rw [hclose]
      split at h
      · next hend =>
          rw [if_pos hend]
          have hlen : hashes ≤ cs.length := by
            have hhashes := congrArg List.length (eq_of_beq (Bool.and_eq_true _ _ ▸ hend).2)
            rw [List.length_take, List.length_replicate] at hhashes
            omega
          rw [List.drop_append_of_le_length hlen]
          cases h
          rfl
      · next hend =>
          rw [if_neg hend]
          split at h
          · cases h
          · next hreturn =>
              obtain ⟨hallowed, h⟩ := Option.ite_none_right_eq_some.mp h
              rw [if_neg ?_, if_pos hallowed, ih h]
              cases cs with
              | nil => cases h
              | cons e cs => exact hreturn

section

variable {c : Char} (hc : Breaks c) (k : List Char)
include hc

/-- A string is read alike with more behind it. -/
theorem readString_append (encoding : Encoding)
    {cs rest : List Char} {t : Token} (h : readString encoding cs = some (t, rest)) :
    readString encoding (cs ++ c :: k) = some (t, rest ++ c :: k) := by
  rw [readString] at h
  obtain ⟨rest', hread, heq⟩ := Option.map_eq_some_iff.mp h
  obtain ⟨rfl, rfl⟩ := Prod.mk.inj heq
  have hread := readQuoted_append encoding (c :: k).length (c :: k) hread
  rw [readString, List.length_append, Nat.add_right_comm, hread, Option.map_some,
    dropSuffix_append hc]

/-- A raw string is read alike with more behind it. -/
theorem readRawString_append (encoding : Encoding)
    {cs rest : List Char} {t : Token} (h : readRawString encoding cs = some (t, rest)) :
    readRawString encoding (cs ++ c :: k) = some (t, rest ++ c :: k) := by
  have hhash : c ≠ '#' := hc.ne_of_mem (by decide)
  have hp : (fun x => x == '#') c = false := by simpa using hhash
  rw [readRawString] at h
  rw [readRawString, takeWhile_append_cons (p := fun x => x == '#') hp,
    dropWhile_append_cons (p := fun x => x == '#') hp]
  split at h
  · next body hbody =>
      obtain ⟨hcount, h⟩ := Option.ite_none_right_eq_some.mp h
      obtain ⟨rest', hread, heq⟩ := Option.map_eq_some_iff.mp h
      obtain ⟨rfl, rfl⟩ := Prod.mk.inj heq
      rw [hbody, List.cons_append]
      simp only [hcount, if_true, readRaw_append encoding _ hhash k hread, Option.map_some,
        dropSuffix_append hc]
  · cases h

/-- A character literal is read alike with more behind it. -/
theorem readChar_append (encoding : Encoding)
    {cs rest : List Char} {t : Token} (h : readChar encoding cs = some (t, rest)) :
    readChar encoding (cs ++ c :: k) = some (t, rest ++ c :: k) := by
  cases cs with
  | nil => cases h
  | cons d cs =>
      rw [List.cons_append]
      by_cases hd : d = '\\'
      · subst hd
        rw [readChar.eq_1] at h
        split at h
        · next body hread =>
            cases h
            rw [readChar.eq_1, readEscape_append encoding _ hread, List.cons_append]
            simp only [dropSuffix_append hc]
        · cases h
      · rw [readChar.eq_2 _ _ _ hd] at h
        split at h
        · next body hread =>
            obtain ⟨hallowed, hread⟩ := Option.ite_none_right_eq_some.mp hread
            cases hread
            cases h
            rw [readChar.eq_2 _ _ _ hd, if_pos hallowed, List.cons_append]
            simp only [dropSuffix_append hc]
        · cases h

end

/-! ### Literals -/

/-- A literal that does not start with a quote or the letter of a string is a number. -/
theorem readLiteral_cons {d : Char} (hd : d ∉ ['"', 'r', 'b', 'c', '\'']) (cs : List Char) :
    readLiteral (d :: cs) = if d.isDigit then readNumber (d :: cs) else none := by
  simp only [List.mem_cons, List.not_mem_nil, or_false, not_or] at hd
  obtain ⟨hquote, hr, hb, hc, hchar⟩ := hd
  exact readLiteral.eq_9 d cs hquote hr (fun _ h => absurd h hb) (fun _ h => absurd h hb)
    (fun _ h => absurd h hc) (fun _ h => absurd h hc) (fun _ h => absurd h hb) hchar

/-- A literal that starts with a digit is a number. -/
theorem readLiteral_of_isDigit {d : Char} (hd : d.isDigit = true) (cs : List Char) :
    readLiteral (d :: cs) = readNumber (d :: cs) := by
  rw [readLiteral_cons, if_pos hd]
  intro hmem
  have hall : ['"', 'r', 'b', 'c', '\''].all (fun c => !c.isDigit) := by decide
  have := List.all_eq_true.mp hall d hmem
  simp [hd] at this

/-- **Literals** are read alike with more behind them. -/
theorem readLiteral_append {c : Char} (hc : Breaks c) (k : List Char)
    {cs rest : List Char} {t : Token} (h : readLiteral cs = some (t, rest)) :
    readLiteral (cs ++ c :: k) = some (t, rest ++ c :: k) := by
  revert h
  fun_cases readLiteral cs with
  | case1 cs => exact readString_append hc k _
  | case2 cs => exact readRawString_append hc k _
  | case3 cs => exact readString_append hc k _
  | case4 cs => exact readRawString_append hc k _
  | case5 cs => exact readString_append hc k _
  | case6 cs => exact readRawString_append hc k _
  | case7 cs => exact readChar_append hc k _
  | case8 cs => exact readChar_append hc k _
  | case9 d cs _ _ _ _ _ _ _ _ hd =>
      intro h
      rw [List.cons_append, readLiteral_of_isDigit hd, ← List.cons_append, readNumber_append hc, h]
      rfl
  | _ => exact nofun

theorem isPrefixOf_append_cons {c : Char} {p : List Char} (hc : c ∉ p) (cs k : List Char) :
    p.isPrefixOf (cs ++ c :: k) = p.isPrefixOf cs := by
  induction p generalizing cs with
  | nil => rfl
  | cons a p ih =>
    have hne : c ≠ a := fun h => hc (h ▸ List.mem_cons_self)
    have hp : c ∉ p := fun h => hc (List.mem_cons_of_mem a h)
    cases cs with
    | nil => simp [List.isPrefixOf, Ne.symm hne]
    | cons d cs => simp [List.isPrefixOf, ih hp]

theorem isDigit_ascii {c : Char} (h : c.isDigit = true) : c.toNat < 128 := by
  delta Char.isDigit at h
  simp only [Bool.and_eq_true, decide_eq_true_eq, UInt32.le_iff_toNat_le] at h
  exact Nat.lt_of_le_of_lt h.2 (by decide)

theorem isDigit_of_isWordStart {c : Char} (h : isWordStart c = true) : c.isDigit = false := by
  rw [Bool.eq_false_iff]
  intro hd
  have hstart := Text.forall_ascii (P := fun c => c.isDigit = true → isWordStart c = false)
    (by decide) (isDigit_ascii hd) hd
  simp [h] at hstart

theorem readRawString_eq_none {encoding : Encoding} {cs : List Char}
    (hquote : ['"'].isPrefixOf cs = false) (hhash : ['#', '"'].isPrefixOf cs = false)
    (hhashes : ['#', '#'].isPrefixOf cs = false) : readRawString encoding cs = none := by
  have hopening : ∀ body, cs.dropWhile (· == '#') ≠ '"' :: body := by
    intro body hbody
    match cs with
    | [] => cases hbody
    | d :: cs =>
      by_cases hd : d = '#'
      · subst hd
        match cs with
        | [] => cases hbody
        | e :: cs =>
          have he : '#' ≠ e := by simpa [List.isPrefixOf] using hhashes
          have he' : '"' ≠ e := by simpa [List.isPrefixOf] using hhash
          simp [he.symm, he'.symm] at hbody
      · have hd' : '"' ≠ d := by simpa [List.isPrefixOf] using hquote
        simp [hd, hd'.symm] at hbody
  rw [readRawString]
  split
  · next body hbody => exact absurd hbody (hopening body)
  · rfl

/-- A text that has no `#` after its prefix has no more of a raw string there. -/
theorem readRawString_eq_none_of_hash {encoding : Encoding} {cs : List Char}
    (hquote : ['"'].isPrefixOf cs = false) (hhash : ['#'].isPrefixOf cs = false) :
    readRawString encoding cs = none := by
  have hlonger : ∀ p, ('#' :: p).isPrefixOf cs = false := by
    intro p
    cases cs with
    | nil => rfl
    | cons d cs =>
        have hd : '#' ≠ d := by simpa [List.isPrefixOf] using hhash
        simp [List.isPrefixOf, hd]
  exact readRawString_eq_none hquote (hlonger _) (hlonger _)

/-- A word whose start is not that of a string starts no literal. -/
theorem readLiteral_eq_none {cs : List Char} (hhead : cs.head?.any isWordStart = true)
    (hstart : literalStarts.any (fun start => start.toList.isPrefixOf cs) = false) :
    readLiteral cs = none := by
  simp only [literalStarts, List.any_cons, List.any_nil, Bool.or_false,
    Bool.or_eq_false_iff] at hstart
  obtain ⟨hr, hrh, hrhh, hb, hbc, hbr, hbrh, hc, hcr, hcrh⟩ := hstart
  fun_cases readLiteral cs with
  | case1 =>
      have hquote : isWordStart '"' = true := hhead
      exact absurd hquote (by decide)
  | case2 cs => exact readRawString_eq_none hr hrh hrhh
  | case3 cs => simp [List.isPrefixOf] at hb
  | case4 cs => exact readRawString_eq_none_of_hash hbr hbrh
  | case5 cs => simp [List.isPrefixOf] at hc
  | case6 cs => exact readRawString_eq_none_of_hash hcr hcrh
  | case7 cs => simp [List.isPrefixOf] at hbc
  | case8 cs =>
      have hquote : isWordStart '\'' = true := hhead
      exact absurd hquote (by decide)
  | case9 d cs _ _ _ _ _ _ _ _ hd =>
      rw [isDigit_of_isWordStart hhead] at hd
      cases hd
  | case10 => rfl
  | case11 => rfl

end AstForge.TypeExpr
