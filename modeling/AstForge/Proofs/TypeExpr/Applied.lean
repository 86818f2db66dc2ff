import AstForge.Proofs.TypeExpr.Continuation
import AstForge.Proofs.TypeExpr.Rules

/-!
# Type expressions — a name with an argument

A name in angle brackets after another name is read as the four tokens it is written with, and the
rule of types takes all four. Both halves go from the inside to the outside.

* `readPiece_identifier`: an identifier is read as one word.
* `take_type_of_path`: a type that starts with a name is the path that starts there.
* `accepts_applied`: a name with another name as its argument is a type.
-/

namespace AstForge.TypeExpr

open Text

/-! ### Names -/

/-- A character that may stand inside a word, and is no mark, no bracket and no separator. -/
structure Plain (c : Char) : Prop where
  rest : isWordRest c = true
  separator : isSeparator c = false
  mark : isMark c = false
  bracket : bracket? c = none

/-- The characters of identifiers are plain. -/
theorem plain_of_isIdentifierRest {c : Char} (h : isIdentifierRest c = true) : Plain c := by
  have hascii := isIdentifierRest_ascii h
  exact ⟨forall_ascii (P := fun c => isIdentifierRest c = true → isWordRest c = true)
      (by decide) hascii h,
    forall_ascii (P := fun c => isIdentifierRest c = true → isSeparator c = false)
      (by decide) hascii h,
    forall_ascii (P := fun c => isIdentifierRest c = true → isMark c = false)
      (by decide) hascii h,
    forall_ascii (P := fun c => isIdentifierRest c = true → bracket? c = none)
      (by decide) hascii h⟩

theorem isWordStart_of_isIdentifierStart {c : Char} (hrest : isIdentifierRest c = true)
    (h : isIdentifierStart c = true) : isWordStart c = true :=
  forall_ascii (P := fun c => isIdentifierStart c = true → isWordStart c = true) (by decide)
    (isIdentifierRest_ascii hrest) h

theorem readWord_identifier {cs : List Char} (h : isIdentifier cs = true) :
    readWord cs = some (String.ofList cs, []) := by
  have hword := isWord_of_isIdentifier h
  match cs with
  | [] => cases h
  | d :: cs =>
    have hstart := isWordStart_of_isIdentifierStart (hword d List.mem_cons_self)
      (Bool.and_eq_true .. ▸ h).1
    have hrest : ∀ e ∈ cs, isWordRest e = true := fun e he =>
      (plain_of_isIdentifierRest (hword e (List.mem_cons_of_mem d he))).rest
    rw [readWord, if_pos hstart, List.takeWhile_eq_self_iff.mpr hrest,
      List.dropWhile_eq_nil_iff.mpr hrest]

theorem readName_identifier {cs : List Char} (h : isIdentifier cs = true) :
    readName cs = some (String.ofList cs, []) := by
  rw [readName.eq_2, readWord_identifier h]
  rintro cs' rfl
  exact (isWord_of_isIdentifier h).notMem (c := '#') (by decide) (by simp)

/-- No word starts as a literal does. -/
theorem literalStart_identifier {cs : List Char} (h : IsWord cs) :
    literalStarts.any (fun start => start.toList.isPrefixOf cs) = false := by
  have hstarts : literalStarts.all fun start => start.toList.any fun d => !isIdentifierRest d := by
    decide
  rw [List.any_eq_false]
  intro start hstart hprefix
  obtain ⟨d, hd, hrest⟩ := List.any_eq_true.mp (List.all_eq_true.mp hstarts start hstart)
  have hmem := (List.isPrefixOf_iff_prefix.mp hprefix).subset hd
  simp [h d hmem] at hrest

theorem startsMark_identifier {cs : List Char} (h : isIdentifier cs = true) :
    startsMark cs = false := by
  match cs with
  | [] => rfl
  | d :: cs =>
    have hd := plain_of_isIdentifierRest (isWord_of_isIdentifier h d List.mem_cons_self)
    rw [Bool.eq_false_iff]
    exact fun hmark => Bool.false_ne_true (hd.mark.symm.trans (isMark_of_startsMark hmark))

theorem readMarkOrWord_identifier {cs : List Char} (h : isIdentifier cs = true) :
    readMarkOrWord cs = some (.word (String.ofList cs), []) := by
  have hword := isWord_of_isIdentifier h
  match cs with
  | [] => cases h
  | d :: cs =>
    have hd := plain_of_isIdentifierRest (hword d List.mem_cons_self)
    have hquote : d ≠ '\'' := by
      rintro rfl
      cases hd.mark
    rw [readMarkOrWord.eq_3 _ _ hquote, startsMark_identifier h, literalStart_identifier hword,
      readName_identifier h]
    rfl

/-- **An identifier is one token.** -/
theorem readToken_identifier {cs : List Char} (h : isIdentifier cs = true) :
    readToken cs = some (.word (String.ofList cs), []) := by
  have hword := isWord_of_isIdentifier h
  have hread := readMarkOrWord_identifier h
  have hliteral : readLiteral cs = none :=
    readLiteral_eq_none (isWordStart_of_readName (readName_identifier h))
      (literalStart_identifier hword)
  match cs with
  | [] => cases h
  | d :: cs =>
    have hd := plain_of_isIdentifierRest (hword d List.mem_cons_self)
    have hwritten : ¬unwritable.isPrefixOf (d :: cs) = true := fun hprefix =>
      hword.notMem (c := '(') (by decide)
        ((List.isPrefixOf_iff_prefix.mp hprefix).subset (by decide))
    rw [readToken, if_neg hwritten, hd.bracket, hliteral, hread]
    rfl

/-- An identifier before a character that breaks is one word. -/
theorem readPiece_identifier {cs : List Char} (h : isIdentifier cs = true) {c : Char}
    (hc : Breaks c) (k : List Char) :
    readPiece (cs ++ c :: k) = some ([.word (String.ofList cs)], c :: k) := by
  have hword := isWord_of_isIdentifier h
  have hslash : ∀ rest, cs ≠ '/' :: rest := by
    rintro rest rfl
    exact hword.notMem (c := '/') (by decide) List.mem_cons_self
  have hpiece : readPiece cs = some ([.word (String.ofList cs)], []) := by
    have hseparator : ¬cs.head?.any isSeparator = true := by
      match cs with
      | [] => exact nofun
      | d :: cs =>
        have hd := plain_of_isIdentifierRest (hword d List.mem_cons_self)
        simp [hd.separator]
    rw [readPiece.eq_3 _ (fun _ => hslash _) (fun _ => hslash _), readSeparatorOrToken,
      if_neg hseparator, readToken_identifier h]
    rfl
  have hclosed : opensLastLine cs = false := opensLastLine.eq_2 _ fun _ => hslash _
  have hwritten := (isPrefixOf_unwritable_append hc k cs).resolve_right fun hbroken => by
    subst hbroken
    exact absurd h (by decide)
  obtain ⟨us, hread, rfl | ⟨-, d, hd, -⟩⟩ := readPiece_append hc k hclosed hwritten hpiece
  · exact hread
  · cases hd

/-- The tokens of a name with another as its argument. -/
theorem tokens?_applied {name w : String} (hname : isIdentifier name.toList = true)
    (hw : isIdentifier w.toList = true) :
    tokens? (name ++ "<" ++ w ++ ">") =
      some [.word name, .mark '<' false, .word w, .mark '>' false] := by
  have hlist : (name ++ "<" ++ w ++ ">").toList = name.toList ++ '<' :: (w.toList ++ ['>']) := by
    simp [String.toList_append]
  have hbreak : Breaks '<' := by decide
  have hbreak' : Breaks '>' := by decide
  have hdrop : dropByteOrderMark name.toList = name.toList := by
    refine dropByteOrderMark.eq_2 _ fun cs hcs => ?_
    exact (isWord_of_isIdentifier hname).notMem (c := '\ufeff') (by decide) (by rw [hcs]; simp)
  have hmark : startsMark (w.toList ++ ['>']) = false := by
    rw [startsMark_append hbreak' [] (ne_nil_of_isIdentifier hw), startsMark_identifier hw]
  have hless : readPiece ('<' :: (w.toList ++ ['>'])) =
      some ([.mark '<' false], w.toList ++ ['>']) := by
    rw [← hmark]
    rfl
  have hgreater : readPiece ['>'] = some ([.mark '>' false], []) := rfl
  have hread : tokensWithin 5 (name.toList ++ '<' :: (w.toList ++ ['>'])) =
      some ([.word (String.ofList name.toList)] ++ ([.mark '<' false] ++
        ([.word (String.ofList w.toList)] ++ ([.mark '>' false] ++ [])))) :=
    tokensWithin_of_readPiece (readPiece_identifier hname hbreak _) <|
      tokensWithin_of_readPiece hless <|
        tokensWithin_of_readPiece (readPiece_identifier hw hbreak' []) <|
          tokensWithin_of_readPiece hgreater rfl
  have hlength : 5 ≤ (name.toList ++ '<' :: (w.toList ++ ['>'])).length + 1 := by
    have := List.length_pos_of_ne_nil (ne_nil_of_isIdentifier hname)
    have := List.length_pos_of_ne_nil (ne_nil_of_isIdentifier hw)
    simp only [List.length_append, List.length_cons, List.length_nil]
    omega
  obtain ⟨m, hm⟩ := Nat.exists_eq_add_of_le hlength
  rw [tokens?, hlist, dropByteOrderMark_append hbreak, hdrop, hm, tokensWithin_add m hread]
  simp [joinLifetimes]

/-! ### Types -/

section

variable {w : String} {ts : List Token}

/-- A name differs from every word that is none. -/
theorem ne_of_isName (hw : isName w = true) (word : String) (hword : isName word = false) :
    (w == word) = false := by
  rw [beq_eq_false_iff_ne]
  rintro rfl
  simp [hw] at hword

/-- A name with the arguments that may follow it is a segment. -/
theorem segment_name (rules : Rules) (hw : isName w = true) (hcolons : colons? ts = none) :
    segment rules false (.word w :: ts) =
      if angle?.starts ts then arguments rules ts else some (.missing, ts) := by
  have hfixed : wordWith? isFixedSegment (.word w :: ts) = none := by
    have hsuper := ne_of_isName hw "super" (by decide)
    have hself := ne_of_isName hw "self" (by decide)
    have hcrate := ne_of_isName hw "crate" (by decide)
    have htry := ne_of_isName hw "try" (by decide)
    simp [wordWith?, isFixedSegment, isPlace, hsuper, hself, hcrate, htry]
  have hneed : wordWith? (fun w => isName w || w == "Self") (.word w :: ts) = some ts := by
    simp [wordWith?, hw]
  cases hangle : angle?.starts ts with
  | true => simp [segment, Take.skip, hfixed, hneed, hangle]
  | false => simp [segment, Take.skip, hfixed, hneed, hangle, hcolons]

/-- One segment is a path, if no `::` follows it. -/
theorem take_path_of_segment {form : ArgumentForm} {rest : List Token}
    (hsegment : segment (Rules.below ⟨Rule.take⟩ ((Rule.path false).weight (.word w :: ts))) false
      (.word w :: ts) = some (form, rest)) (hcolons : colons? rest = none) :
    (Rule.path false).take (.word w :: ts) =
      some (⟨true, form == .missing, form != .listed⟩, rest) := by
  have hrooted : colons? (.word w :: ts) = none := rfl
  have hmany : ∀ element : Take ArgumentForm, Take.many (fun ts =>
      (colons? ts).any fun rest => !(opening? .round).starts rest) element rest =
        some ([], rest) :=
    fun element => Take.many_eq_nil element (by rw [hcolons]; rfl)
  rw [Rule.take_eq]
  simp [Rule.body, pathRule, Take.skip, hrooted, segments, hsegment, hmany, bne]

/-- A type that starts with a name is the path there, if no macro call and no bound follows. -/
theorem take_type_of_path (plus : Bool) (hw : isName w = true) {form : PathForm} {rest : List Token}
    (hpath : (Rule.path false).take (.word w :: ts) = some (form, rest))
    (hbuiltin : startsBuiltin (.word w :: ts) = false) (hbang : bang?.starts rest = false)
    (hplus : (mark? '+').starts rest = false) :
    (Rule.type plus).take (.word w :: ts) = some (if form.single then .name else .bound, rest) := by
  have hnamed : ∀ rules : Rules, rules.take (.path false) (.word w :: ts) = some (form, rest) →
      typeRule rules plus (.word w :: ts) =
        some (if form.single then .name else .bound, rest) := by
    intro rules hrules
    have hstart : startsPath w = true := by simp [startsPath, hw]
    have hfor := ne_of_isName hw "for" (by decide)
    simp only [typeRule, Take.bind_apply, Take.get_apply, Option.bind_some, hbuiltin, hfor, hstart]
    simp [namedType, hrules, hbang, hplus]
  have hweight : (Rule.path false).weight (.word w :: ts) <
      3 * (Token.word w :: ts).length + 2 := by
    simp [Rule.weight, Rule.rank]
  rw [take_type]
  exact hnamed _ ((below_take hweight).trans hpath)

/-- One name in angle brackets. -/
theorem arguments_name {rules : Rules} (hw : isName w = true) (joint joint' : Bool)
    (htype : rules.take (.type true) (.word w :: .mark '>' joint' :: ts) =
      some (.name, .mark '>' joint' :: ts)) :
    arguments rules (.mark '<' joint :: .word w :: .mark '>' joint' :: ts) =
      some (.listed, ts) := by
  have htrue := ne_of_isName hw "true" (by decide)
  have hfalse := ne_of_isName hw "false" (by decide)
  have hargument : argument rules (.word w :: .mark '>' joint' :: ts) =
      some ((), .mark '>' joint' :: ts) := by
    have hlifetime : lifetime?.starts (.word w :: .mark '>' joint' :: ts) = false := rfl
    have hcurly : (opening? .curly).starts (.word w :: .mark '>' joint' :: ts) = false := rfl
    have hliteral : literal?.starts (.word w :: .mark '>' joint' :: ts) = false := by
      simp [Phrase.starts, literal?, htrue, hfalse]
    simp [argument, hlifetime, hcurly, hliteral, htype, Take.skip, mark?]
  have hseparated : Take.separated (mark? ',') (mark? '>').starts (argument rules)
      (.word w :: .mark '>' joint' :: ts) = some (1, .mark '>' joint' :: ts) := by
    have hstops : (mark? '>').starts (.word w :: .mark '>' joint' :: ts) = false := rfl
    simp [Take.separated, Take.loop, Take.rounds, hstops, hargument, Take.skip, mark?]
  simp [arguments, mark?, hseparated]

/-- A name before `>` is taken as a type. -/
theorem take_name (hw : isName w = true) (plus joint : Bool) :
    (Rule.type plus).take [.word w, .mark '>' joint] = some (.name, [.mark '>' joint]) := by
  have hcolons : colons? [.mark '>' joint] = none := by cases joint <;> rfl
  have hangle : angle?.starts [.mark '>' joint] = false := by cases joint <;> rfl
  have hbang : bang?.starts [.mark '>' joint] = false := by cases joint <;> rfl
  have hbuiltin : startsBuiltin [.word w, .mark '>' joint] = false :=
    startsBuiltin.eq_2 _ (by simp)
  have hsegment : ∀ rules, segment rules false [.word w, .mark '>' joint] =
      some (.missing, [.mark '>' joint]) := by
    intro rules
    rw [segment_name rules hw hcolons, hangle]
    rfl
  exact take_type_of_path plus hw (take_path_of_segment (hsegment _) hcolons) hbuiltin hbang rfl

/-- A name with another name as its argument is a type. -/
theorem take_applied {name : String} (hname : isName name = true) (hw : isName w = true)
    (plus : Bool) :
    (Rule.type plus).take [.word name, .mark '<' false, .word w, .mark '>' false] =
      some (.name, []) := by
  have hbuiltin : startsBuiltin [.word name, .mark '<' false, .word w, .mark '>' false] = false :=
    startsBuiltin.eq_2 _ (by simp)
  have hangle : angle?.starts [.mark '<' false, .word w, .mark '>' false] = true := rfl
  have hweight : (Rule.type true).weight [.word w, .mark '>' false] <
      (Rule.path false).weight [.word name, .mark '<' false, .word w, .mark '>' false] := by
    simp [Rule.weight, Rule.rank]
  have hargument := (below_take hweight).trans (take_name hw true false)
  have hsegment : segment (Rules.below ⟨Rule.take⟩ ((Rule.path false).weight
      [.word name, .mark '<' false, .word w, .mark '>' false])) false
      [.word name, .mark '<' false, .word w, .mark '>' false] = some (.listed, []) := by
    rw [segment_name _ hname rfl, hangle, if_pos rfl, arguments_name hw _ _ hargument]
  exact take_type_of_path plus hname (take_path_of_segment hsegment rfl) hbuiltin rfl rfl

end

/-- **Arguments**: a name with another name as its argument is a type. -/
theorem accepts_applied {name w : String} (hname : isIdentifier name.toList = true)
    (hname' : isName name = true) (hw : isIdentifier w.toList = true) (hw' : isName w = true) :
    accepts (name ++ "<" ++ w ++ ">") = true :=
  accepts_eq_true_iff.mpr ⟨_, tokens?_applied hname hw, rfl, _, take_applied hname' hw' true⟩

end AstForge.TypeExpr
