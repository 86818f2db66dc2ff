import AstForge.Proofs.TypeExpr.Readers

/-!
# Type expressions — pieces and what follows a text

A text is read piece by piece: a comment, a separator or a token. A piece is read alike from a
longer text, with two exceptions. A comment that no line feed ends goes on, and a mark at the end
becomes joint if what follows starts with a mark.

* `readToken_append`: a token is read alike, up to whether it is joint.
* `readBlockComment_append`, `readLineComment_append`: a comment is read alike if it ends.
* `readPiece_append`: so is every piece.
-/

namespace AstForge.TypeExpr

/-! ### Marks and words -/

theorem isMark_of_startsMark {d : Char} {cs : List Char} (h : startsMark (d :: cs) = true) :
    isMark d = true := by
  rw [startsMark.eq_def] at h
  split at h
  · cases h
  · cases h
  · cases h
  · next heq =>
      cases heq
      exact h

/-- A mark other than a quote starts no literal. -/
theorem readLiteral_mark_eq_none {d : Char} (hquote : d ≠ '\'') (hd : isMark d = true)
    (cs : List Char) : readLiteral (d :: cs) = none := by
  have hmarks : "~!@#$%^&*-=+|;:,<.>/?'".toList.all fun d =>
      d == '\'' || !d.isDigit && !(['"', 'r', 'b', 'c', '\''].contains d) := by decide
  have hd := List.all_eq_true.mp hmarks d (List.contains_iff_mem.mp hd)
  simp only [Bool.or_eq_true, beq_iff_eq, hquote, false_or, Bool.and_eq_true, Bool.not_eq_true',
    List.contains_eq_mem, decide_eq_false_iff_not] at hd
  rw [readLiteral_cons hd.2, hd.1]
  rfl

theorem isWordStart_of_readWord {cs rest : List Char} {w : String}
    (h : readWord cs = some (w, rest)) : cs.head?.any isWordStart = true := by
  cases cs with
  | nil => cases h
  | cons d cs => exact (Option.ite_none_right_eq_some.mp h).1

theorem isWordStart_of_readName {cs rest : List Char} {w : String}
    (h : readName cs = some (w, rest)) : cs.head?.any isWordStart = true := by
  revert h
  fun_cases readName cs with
  | case4 hraw => exact isWordStart_of_readWord
  | _ =>
      have hr : isWordStart 'r' = true := by decide
      exact fun _ => hr

/-- `t'` is the joint form of the mark `t`. -/
def Token.JointAs (t t' : Token) : Prop :=
  ∃ c, t = .mark c false ∧ t' = .mark c true

section

variable {c : Char} (hc : Breaks c) (k : List Char)
include hc

/-- Whether a text starts with a mark does not depend on what follows it. -/
theorem startsMark_append {cs : List Char} (hcs : cs ≠ []) :
    startsMark (cs ++ c :: k) = startsMark cs := by
  have hline : c ≠ '/' := hc.ne_of_mem (by decide)
  have hblock : c ≠ '*' := hc.ne_of_mem (by decide)
  match cs with
  | [] => exact absurd rfl hcs
  | [d] => simp [startsMark, hline, hblock]
  | d :: e :: cs =>
    by_cases hd : d = '/'
    · subst hd
      by_cases he : e = '/'
      · subst he; rfl
      · by_cases he' : e = '*'
        · subst he'; rfl
        · simp [startsMark, he, he']
    · simp [startsMark, hd]

/-- Nor does whether it starts with a lifetime. -/
theorem startsLifetime_append (cs : List Char) :
    startsLifetime (cs ++ c :: k) = startsLifetime cs := by
  have hquote : c ≠ '\'' := hc.ne_of_mem (by decide)
  have hhash : c ≠ '#' := hc.ne_of_mem (by decide)
  rw [startsLifetime, startsLifetime, readName_append hc]
  cases readName cs with
  | none => rfl
  | some p =>
    obtain ⟨word, rest⟩ := p
    cases rest with
    | nil => simp [bne, hquote, hhash]
    | cons d rest => rfl

/-- A quote before a name starts no character literal, whatever follows. -/
theorem readLiteral_quote_eq_none {cs : List Char}
    (hname : startsLifetime cs = true) (h : readLiteral ('\'' :: cs) = none) :
    readLiteral ('\'' :: cs ++ c :: k) = none := by
  have hquote : c ≠ '\'' := hc.ne_of_mem (by decide)
  rw [startsLifetime] at hname
  split at hname
  · next word rest hread =>
      have hhead := isWordStart_of_readName hread
      cases cs with
      | nil => cases hread
      | cons d cs =>
          have hd : d ≠ '\\' := by
            rintro rfl
            have hstart : isWordStart '\\' = true := hhead
            exact absurd hstart (by decide)
          rw [readLiteral, readChar.eq_2 _ _ _ hd] at h
          rw [List.cons_append, List.cons_append, readLiteral, readChar.eq_2 _ _ _ hd]
          cases cs with
          | nil => simp [Encoding.allows, hquote]
          | cons e cs =>
              have he : e ≠ '\'' := by
                rintro rfl
                simp [Encoding.allows] at h
              simp [Encoding.allows, he]
  · cases hname

/-- Nor does whether it starts as a literal does. -/
theorem literalStart_append (cs : List Char) :
    literalStarts.any (fun start => start.toList.isPrefixOf (cs ++ c :: k)) =
      literalStarts.any fun start => start.toList.isPrefixOf cs := by
  have hstarts : literalStarts.all fun start => start.toList.all fun d =>
      isWordStart d || boundMarks.contains d := by decide
  rw [Bool.eq_iff_iff, List.any_eq_true, List.any_eq_true]
  refine exists_congr fun start => and_congr_right fun hstart => ?_
  rw [isPrefixOf_append_cons]
  intro hmem
  have hd := List.all_eq_true.mp (List.all_eq_true.mp hstarts start hstart) c hmem
  rw [hc.start, Bool.false_or, List.contains_iff_mem] at hd
  exact hc.mark hd

theorem readMarkOrWord_append {cs rest : List Char} {t : Token}
    (h : readMarkOrWord cs = some (t, rest)) :
    ∃ t', readMarkOrWord (cs ++ c :: k) = some (t', rest ++ c :: k) ∧
      (t' = t ∨ rest = [] ∧ t.JointAs t') := by
  match cs with
  | [] => cases h
  | d :: cs =>
    rw [List.cons_append]
    by_cases hquote : d = '\''
    · subst hquote
      obtain ⟨hlife, h⟩ := Option.ite_none_right_eq_some.mp h
      cases h
      refine ⟨.quote, ?_, .inl rfl⟩
      rw [readMarkOrWord.eq_2, startsLifetime_append hc, if_pos hlife]
    · rw [readMarkOrWord.eq_3 _ _ hquote] at h
      rw [readMarkOrWord.eq_3 _ _ hquote, ← List.cons_append,
        startsMark_append hc k (List.cons_ne_nil d cs)]
      split at h
      · next hmark =>
          cases h
          refine ⟨.mark d (startsMark (rest ++ c :: k)), if_pos hmark, ?_⟩
          cases rest with
          | nil =>
            cases hjoint : startsMark ([] ++ c :: k) with
            | false => exact .inl rfl
            | true => exact .inr ⟨rfl, d, rfl, rfl⟩
          | cons e cs => exact .inl (by rw [startsMark_append hc k (List.cons_ne_nil e cs)])
      · next hmark =>
          split at h
          · cases h
          · next hstart =>
              obtain ⟨⟨word, rest'⟩, hread, heq⟩ := Option.map_eq_some_iff.mp h
              cases heq
              refine ⟨.word word, ?_, .inl rfl⟩
              rw [if_neg hmark, literalStart_append hc, if_neg hstart, readName_append hc, hread]
              rfl

/-- A mark or a word that is no literal stays none, whatever follows. -/
theorem readLiteral_append_eq_none {cs rest : List Char}
    {t : Token} (h : readMarkOrWord cs = some (t, rest)) (hnone : readLiteral cs = none) :
    readLiteral (cs ++ c :: k) = none := by
  match cs with
  | [] => cases h
  | d :: cs =>
    by_cases hquote : d = '\''
    · subst hquote
      exact readLiteral_quote_eq_none hc k (Option.ite_none_right_eq_some.mp h).1 hnone
    · rw [readMarkOrWord.eq_3 _ _ hquote] at h
      split at h
      · next hmark => exact readLiteral_mark_eq_none hquote (isMark_of_startsMark hmark) _
      · split at h
        · cases h
        · next hstart =>
            obtain ⟨⟨word, rest'⟩, hread, -⟩ := Option.map_eq_some_iff.mp h
            have hhead : isWordStart d = true := isWordStart_of_readName hread
            refine readLiteral_eq_none hhead ?_
            rw [literalStart_append hc]
            simpa using hstart

/-- **A token** is read alike with more behind it, but that a last mark may become joint. -/
theorem readToken_append {cs rest : List Char} {t : Token}
    (hwritten : unwritable.isPrefixOf (cs ++ c :: k) = unwritable.isPrefixOf cs)
    (h : readToken cs = some (t, rest)) :
    ∃ t', readToken (cs ++ c :: k) = some (t', rest ++ c :: k) ∧
      (t' = t ∨ rest = [] ∧ t.JointAs t') := by
  match cs with
  | [] => cases h
  | d :: cs =>
    rw [readToken] at h
    rw [List.cons_append, readToken, ← List.cons_append, hwritten]
    split at h
    · next hprefix =>
        cases h
        refine ⟨.literal, ?_, .inl rfl⟩
        rw [if_pos hprefix, List.drop_append_of_le_length]
        exact (List.isPrefixOf_iff_prefix.mp hprefix).length_le
    · next hprefix =>
        rw [if_neg hprefix]
        cases hbracket : bracket? d with
        | some bracket =>
            rw [hbracket] at h
            cases h
            exact ⟨t, rfl, .inl rfl⟩
        | none =>
            simp only [hbracket] at h ⊢
            rcases Option.or_eq_some_iff.mp h with hliteral | ⟨hliteral, hword⟩
            · rw [readLiteral_append hc k hliteral]
              exact ⟨t, rfl, .inl rfl⟩
            · rw [readLiteral_append_eq_none hc k hword hliteral, Option.none_or]
              exact readMarkOrWord_append hc k hword

end

/-! ### Comments -/

/-- The end of a block comment is found alike with more behind it. -/
theorem commentEnd_append (k : List Char) {depth : Nat} {cs after : List Char}
    (h : commentEnd depth cs = some after) : commentEnd depth (cs ++ k) = some (after ++ k) := by
  fun_induction commentEnd depth cs with
  | case1 depth cs ih => exact ih h
  | case2 depth cs hdepth =>
      cases h
      exact if_pos hdepth
  | case3 depth cs hdepth ih =>
      rw [List.cons_append, List.cons_append, commentEnd, if_neg hdepth, ih h]
  | case4 depth c cs hopen hclose ih =>
      cases cs with
      | nil => cases h
      | cons e cs =>
          rw [List.cons_append, commentEnd.eq_3, ih h]
          · rintro _ rfl ⟨⟩
            exact hopen cs rfl rfl
          · rintro _ rfl ⟨⟩
            exact hclose cs rfl rfl
  | case5 => cases h

theorem lineBody_append (k : List Char) {cs : List Char} (h : '\n' ∈ cs) :
    lineBody (cs ++ k) = lineBody cs := by
  fun_induction lineBody cs with
  | case1 cs => rfl
  | case2 cs => rfl
  | case3 => cases h
  | case4 c cs hreturn hline ih =>
      have h := (List.mem_cons.mp h).resolve_left fun h => hline h.symm
      cases cs with
      | nil => cases h
      | cons e cs =>
          rw [List.cons_append, lineBody.eq_4, ih h]
          · rintro _ rfl ⟨⟩
            exact hreturn cs rfl rfl
          · exact hline

theorem dropWhile_append_of_mem (k : List Char) {cs : List Char} (h : '\n' ∈ cs) :
    (cs ++ k).dropWhile (· != '\n') = cs.dropWhile (· != '\n') ++ k := by
  induction cs with
  | nil => cases h
  | cons c cs ih =>
      by_cases hc : c = '\n'
      · subst hc
        rfl
      · have h := (List.mem_cons.mp h).resolve_left (Ne.symm hc)
        simp [hc, ih h]

/-- A line comment that a line feed ends is read alike with more behind it. -/
theorem readLineComment_append (k : List Char) {cs : List Char} (h : '\n' ∈ cs) :
    readLineComment (cs ++ k) = (readLineComment cs).map fun p => (p.1, p.2 ++ k) := by
  rw [readLineComment, readLineComment, lineBody_append k h, dropWhile_append_of_mem k h,
    Option.map_map]
  rfl

/-- A block comment is read alike with more behind it. -/
theorem readBlockComment_append (k : List Char) {cs rest : List Char} {ts : List Token}
    (h : readBlockComment cs = some (ts, rest)) :
    readBlockComment (cs ++ k) = some (ts, rest ++ k) := by
  obtain ⟨after, hend, h⟩ := Option.bind_eq_some_iff.mp h
  obtain ⟨comment, hcomment, heq⟩ := Option.map_eq_some_iff.mp h
  obtain ⟨rfl, rfl⟩ := Prod.mk.inj heq
  have htake : (cs ++ k).take ((cs ++ k).length - (after ++ k).length - 2) =
      cs.take (cs.length - after.length - 2) := by
    rw [List.length_append, List.length_append, Nat.add_sub_add_right]
    exact List.take_append_of_le_length (by omega)
  rw [readBlockComment, commentEnd_append k hend, Option.bind_some, htake, hcomment]
  rfl

/-! ### Pieces -/

/-- Whether a text starts with a comment that no line feed ends. -/
def opensLastLine : List Char → Bool
  | '/' :: '/' :: cs => !cs.contains '\n'
  | _ => false

/-- A blank, a comment or a token is read alike with more behind it, but that a last mark may become
joint. -/
theorem readSeparatorOrToken_append {c : Char} (hc : Breaks c) (k : List Char)
    {cs rest : List Char} {ts : List Token}
    (hwritten : unwritable.isPrefixOf (cs ++ c :: k) = unwritable.isPrefixOf cs)
    (h : readSeparatorOrToken cs = some (ts, rest)) :
    ∃ us, readSeparatorOrToken (cs ++ c :: k) = some (us, rest ++ c :: k) ∧
      (us = ts ∨ rest = [] ∧ ∃ d, ts = [.mark d false] ∧ us = [.mark d true]) := by
  match cs with
  | [] => cases h
  | d :: cs =>
    rw [readSeparatorOrToken] at h
    rw [List.cons_append, readSeparatorOrToken]
    split at h
    · next hblank =>
        cases h
        exact ⟨[], if_pos hblank, .inl rfl⟩
    · next hblank =>
        obtain ⟨⟨t, rest'⟩, hread, heq⟩ := Option.map_eq_some_iff.mp h
        cases heq
        obtain ⟨t', hread', hjoint⟩ := readToken_append hc k hwritten hread
        refine ⟨[t'], ?_, ?_⟩
        · refine (if_neg hblank).trans ?_
          rw [← List.cons_append, hread']
          rfl
        · rcases hjoint with rfl | ⟨rfl, e, rfl, rfl⟩
          · exact .inl rfl
          · exact .inr ⟨rfl, e, rfl, rfl⟩

/-- A piece is read alike before a character that breaks, up to whether its mark is joint. -/
theorem readPiece_append {c : Char} (hc : Breaks c) (k : List Char) {cs rest : List Char}
    {ts : List Token} (hclosed : opensLastLine cs = false)
    (hwritten : unwritable.isPrefixOf (cs ++ c :: k) = unwritable.isPrefixOf cs)
    (h : readPiece cs = some (ts, rest)) :
    ∃ us, readPiece (cs ++ c :: k) = some (us, rest ++ c :: k) ∧
      (us = ts ∨ rest = [] ∧ ∃ d, ts = [.mark d false] ∧ us = [.mark d true]) := by
  have hline : c ≠ '/' := hc.ne_of_mem (by decide)
  have hblock : c ≠ '*' := hc.ne_of_mem (by decide)
  revert h
  fun_cases readPiece cs with
  | case1 cs =>
      intro h
      refine ⟨ts, ?_, .inl rfl⟩
      have hend : '\n' ∈ cs := by simpa [opensLastLine] using hclosed
      rw [List.cons_append, List.cons_append, readPiece, readLineComment_append (c :: k) hend, h]
      rfl
  | case2 cs =>
      intro h
      exact ⟨ts, readBlockComment_append (c :: k) h, .inl rfl⟩
  | case3 _ hnoLine hnoBlock =>
      intro h
      rw [readPiece.eq_3]
      · exact readSeparatorOrToken_append hc k hwritten h
      · intro cs' heq
        obtain ⟨rest', rfl, -⟩ := exists_of_append_cons_eq hline hline heq
        exact hnoLine rest' rfl
      · intro cs' heq
        obtain ⟨rest', rfl, -⟩ := exists_of_append_cons_eq hline hblock heq
        exact hnoBlock rest' rfl

end AstForge.TypeExpr
