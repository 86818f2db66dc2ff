import AstForge.Proofs.TypeExpr.Pieces

/-!
# Type expressions — the tokens of a text with a continuation

Whether a text that follows another is read after it depends on where the first one ends: a comment
that runs to the end of its line takes in what stands there.

* `endsInLineComment`: whether a text ends in such a comment.
* `Continues.tokens?_append`: if it does not, the tokens of both are the tokens of each, in order.
* `Continues.tokens?_append_of_endsInLineComment`: if it does, the tokens of both are those of the
  first.
-/

namespace AstForge.TypeExpr

/-! ### One piece and the rest -/

/-- Tokens are read piece by piece. -/
theorem tokensWithin_eq_some_iff {n : Nat} {cs : List Char} (hcs : cs ≠ []) {ts : List Token} :
    tokensWithin (n + 1) cs = some ts ↔
      ∃ piece rest us, readPiece cs = some (piece, rest) ∧ tokensWithin n rest = some us ∧
        ts = piece ++ us := by
  rw [tokensWithin.eq_3 _ _ hcs, Option.bind_eq_some_iff]
  constructor
  · rintro ⟨⟨piece, rest⟩, hpiece, h⟩
    obtain ⟨us, hrest, rfl⟩ := Option.map_eq_some_iff.mp h
    exact ⟨piece, rest, us, hpiece, hrest, rfl⟩
  · rintro ⟨piece, rest, us, hpiece, hrest, rfl⟩
    exact ⟨(piece, rest), hpiece, by rw [hrest]; rfl⟩

theorem tokensWithin_of_readPiece {n : Nat} {cs rest : List Char} {piece us : List Token}
    (hpiece : readPiece cs = some (piece, rest)) (hrest : tokensWithin n rest = some us) :
    tokensWithin (n + 1) cs = some (piece ++ us) := by
  have hcs : cs ≠ [] := by
    rintro rfl
    cases hpiece
  exact (tokensWithin_eq_some_iff hcs).mpr ⟨piece, rest, us, hpiece, hrest, rfl⟩

/-- More fuel reads the same tokens. -/
theorem tokensWithin_add (m : Nat) {n : Nat} {cs : List Char} {ts : List Token}
    (h : tokensWithin n cs = some ts) : tokensWithin (n + m) cs = some ts := by
  induction n generalizing cs ts with
  | zero => cases h
  | succ n ih =>
      rw [Nat.succ_add]
      cases cs with
      | nil => exact h
      | cons c cs =>
          have hcs := List.cons_ne_nil c cs
          obtain ⟨piece, rest, us, hpiece, hrest, rfl⟩ := (tokensWithin_eq_some_iff hcs).mp h
          exact (tokensWithin_eq_some_iff hcs).mpr ⟨piece, rest, us, hpiece, ih hrest, rfl⟩

theorem tokensWithin_nil {n : Nat} {ts : List Token} (h : tokensWithin n [] = some ts) :
    ts = [] := by
  cases n with
  | zero => cases h
  | succ n =>
      cases h
      rfl

/-! ### Where a text ends -/

/-- Whether reading a text comes to a comment that no line feed ends; `fuel` bounds the number of
steps. -/
def endsInLineCommentWithin : (fuel : Nat) → List Char → Bool
  | 0, _ => false
  | n + 1, cs => opensLastLine cs || (readPiece cs).any fun p => endsInLineCommentWithin n p.2

/-- Whether a text ends in a comment that runs to the end of its line, so that it takes in what is
written after the text. -/
def endsInLineComment (s : String) : Bool :=
  let cs := dropByteOrderMark s.toList
  endsInLineCommentWithin (cs.length + 1) cs

theorem endsInLineCommentWithin_nil (n : Nat) : endsInLineCommentWithin n [] = false := by
  cases n <;> rfl

/-- A text ends in a line comment when its first piece does, or the rest. -/
theorem endsInLineCommentWithin_succ {n : Nat} {cs rest : List Char} {piece : List Token}
    (hpiece : readPiece cs = some (piece, rest)) :
    endsInLineCommentWithin (n + 1) cs = (opensLastLine cs || endsInLineCommentWithin n rest) := by
  rw [endsInLineCommentWithin, hpiece]
  rfl

/-! ### A literal that could not be written -/

/-- The text of a literal that could not be written, without the bracket that closes it. It is the
one text that `)` does not just follow. -/
def brokenOff : List Char := "(/*ERROR*/".toList

theorem isPrefixOf_concat_append_cons {p : List Char} {c d : Char} (hc : c ∉ p)
    (cs k : List Char) :
    (p ++ [d]).isPrefixOf (cs ++ c :: k) = (p ++ [d]).isPrefixOf cs ∨ cs = p := by
  induction p generalizing cs with
  | nil =>
      cases cs with
      | nil => exact .inr rfl
      | cons e cs => exact .inl rfl
  | cons a p ih =>
      have hne : a ≠ c := fun h => hc (h ▸ List.mem_cons_self)
      cases cs with
      | nil => exact .inl (by simp [List.isPrefixOf, hne])
      | cons e cs =>
          rcases ih (fun h => hc (List.mem_cons_of_mem a h)) cs with h | rfl
          · exact .inl (by simp only [List.cons_append, List.isPrefixOf, h])
          · by_cases he : a = e
            · exact .inr (by rw [he])
            · exact .inl (by simp [List.isPrefixOf, beq_eq_false_iff_ne.mpr he])

/-- A character that breaks makes such a literal only of the text that is broken off. -/
theorem isPrefixOf_unwritable_append {c : Char} (hc : Breaks c) (k cs : List Char) :
    unwritable.isPrefixOf (cs ++ c :: k) = unwritable.isPrefixOf cs ∨ cs = brokenOff := by
  have hbroken : brokenOff.all fun d => isWordStart d || boundMarks.contains d := by decide
  have hwritten : unwritable = brokenOff ++ [')'] := by decide
  rw [hwritten]
  refine isPrefixOf_concat_append_cons (fun hmem => ?_) cs k
  have hd := List.all_eq_true.mp hbroken c hmem
  rw [hc.start, Bool.false_or, List.contains_iff_mem] at hd
  exact hc.mark hd

theorem readPiece_brokenOff :
    readPiece brokenOff = some ([.opening .round], "/*ERROR*/".toList) ∧
      readPiece "/*ERROR*/".toList = some ([], []) := by
  decide

/-- The text that is broken off is read as its opening bracket alone. -/
theorem tokensWithin_brokenOff {n : Nat} {ts : List Token}
    (h : tokensWithin n brokenOff = some ts) : ts = [.opening .round] := by
  obtain ⟨hopening, hcomment⟩ := readPiece_brokenOff
  match n with
  | 0 => cases h
  | 1 =>
    obtain ⟨_, _, _, hpiece, hrest, -⟩ := (tokensWithin_eq_some_iff (by decide)).mp h
    cases hrest
  | n + 2 =>
    obtain ⟨_, _, _, hpiece, hrest, rfl⟩ := (tokensWithin_eq_some_iff (by decide)).mp h
    cases hopening.symm.trans hpiece
    obtain ⟨_, _, _, hpiece, hrest, rfl⟩ := (tokensWithin_eq_some_iff (by decide)).mp hrest
    cases hcomment.symm.trans hpiece
    rw [tokensWithin_nil hrest]
    rfl

theorem endsInLineCommentWithin_brokenOff (n : Nat) :
    endsInLineCommentWithin n brokenOff = false := by
  obtain ⟨hopening, hcomment⟩ := readPiece_brokenOff
  match n with
  | 0 => rfl
  | 1 => rfl
  | n + 2 =>
    rw [endsInLineCommentWithin_succ hopening, endsInLineCommentWithin_succ hcomment,
      endsInLineCommentWithin_nil]
    rfl

/-! ### The tokens of the longer text -/

/-- `us` is `ts`, but that its last mark may have become joint. -/
def Respaced (ts us : List Token) : Prop :=
  us = ts ∨ ∃ init c, ts = init ++ [.mark c false] ∧ us = init ++ [.mark c true]

namespace Respaced

/-- What stands before does not change how marks are spaced. -/
theorem append_left {ts us : List Token} (h : Respaced ts us) (piece : List Token) :
    Respaced (piece ++ ts) (piece ++ us) := by
  rcases h with rfl | ⟨init, c, rfl, rfl⟩
  · exact .inl rfl
  · exact .inr ⟨piece ++ init, c, (List.append_assoc ..).symm, (List.append_assoc ..).symm⟩

theorem length_eq {ts us : List Token} (h : Respaced ts us) : us.length = ts.length := by
  rcases h with rfl | ⟨init, c, rfl, rfl⟩
  · rfl
  · simp

theorem eq_nil {us : List Token} (h : Respaced [] us) : us = [] :=
  List.eq_nil_of_length_eq_zero h.length_eq

end Respaced

/-- What follows a text that does not end in a line comment is read after it. An opening bracket at
the end is ruled out, as `brokenOff` ends with one. -/
theorem tokensWithin_append {c : Char} (hc : Breaks c) {k : List Char} {m : Nat} {ks : List Token}
    (hk : tokensWithin (m + 1) (c :: k) = some ks) {n : Nat} {cs : List Char} {ts : List Token}
    (h : tokensWithin n cs = some ts) (hclosed : endsInLineCommentWithin n cs = false)
    (hlast : ∀ b, ts.getLast? ≠ some (.opening b)) :
    ∃ us, tokensWithin (n + m) (cs ++ c :: k) = some (us ++ ks) ∧ Respaced ts us := by
  induction n generalizing cs ts with
  | zero => cases h
  | succ n ih =>
      by_cases hcs : cs = []
      · subst hcs
        obtain rfl := tokensWithin_nil h
        refine ⟨[], ?_, .inl rfl⟩
        rw [Nat.add_right_comm, Nat.add_comm n, Nat.add_right_comm]
        exact tokensWithin_add n hk
      · obtain ⟨piece, rest, us, hpiece, hrest, rfl⟩ := (tokensWithin_eq_some_iff hcs).mp h
        rw [endsInLineCommentWithin_succ hpiece, Bool.or_eq_false_iff] at hclosed
        have hwritten := (isPrefixOf_unwritable_append hc k cs).resolve_right fun hbroken => by
          subst hbroken
          exact hlast .round (by rw [tokensWithin_brokenOff h]; rfl)
        obtain ⟨piece', hpiece', hjoint⟩ := readPiece_append hc k hclosed.1 hwritten hpiece
        have hlast' : ∀ b, us.getLast? ≠ some (.opening b) := fun b hb =>
          hlast b (by rw [List.getLast?_append, hb]; rfl)
        obtain ⟨us', hrest', hspaced⟩ := ih hrest hclosed.2 hlast'
        refine ⟨piece' ++ us', ?_, ?_⟩
        · rw [Nat.succ_add, List.append_assoc]
          exact (tokensWithin_eq_some_iff (by simp)).mpr ⟨_, _, _, hpiece', hrest', rfl⟩
        · rcases hjoint with rfl | ⟨rfl, d, rfl, rfl⟩
          · exact hspaced.append_left _
          · -- Only the last piece can become joint, so nothing is left to be read after it.
            obtain rfl := tokensWithin_nil hrest
            rw [hspaced.eq_nil]
            exact .inr ⟨[], d, rfl, rfl⟩

/-! ### A continuation in a comment -/

theorem lineBody_eq_self {cs : List Char} (h : '\n' ∉ cs) : lineBody cs = cs := by
  fun_induction lineBody cs with
  | case1 cs => simp at h
  | case2 cs => simp at h
  | case3 => rfl
  | case4 c cs hreturn hline ih => rw [ih fun hmem => h (List.mem_cons_of_mem c hmem)]

/-- Without a line feed, a line goes on into what follows. -/
theorem lineBody_append_of_notMem {c : Char} (hc : c ≠ '\n') (k : List Char) {cs : List Char}
    (h : '\n' ∉ cs) : lineBody (cs ++ c :: k) = cs ++ lineBody (c :: k) := by
  induction cs with
  | nil => rfl
  | cons d cs ih =>
      have hd : d ≠ '\n' := fun hd => h (hd ▸ List.mem_cons_self)
      have hcs : '\n' ∉ cs := fun hmem => h (List.mem_cons_of_mem d hmem)
      rw [List.cons_append, lineBody.eq_4, ih hcs, List.cons_append]
      · intro cs' _ heq
        cases cs with
        | nil => exact hc (List.cons.inj heq).1
        | cons e cs => exact hcs ((List.cons.inj heq).1 ▸ List.mem_cons_self)
      · exact hd

theorem mem_of_mem_lineBody {c : Char} {cs : List Char} (h : c ∈ lineBody cs) : c ∈ cs := by
  fun_induction lineBody cs with
  | case1 cs => cases h
  | case2 cs => cases h
  | case3 => cases h
  | case4 d cs hreturn hline ih =>
      rcases List.mem_cons.mp h with rfl | h
      · exact List.mem_cons_self
      · exact List.mem_cons_of_mem d (ih h)

theorem hasStrayReturn_eq_false {cs : List Char} (h : '\r' ∉ cs) : hasStrayReturn cs = false := by
  fun_induction hasStrayReturn cs with
  | case1 cs ih => simp at h
  | case2 cs _ => simp at h
  | case3 c cs hreturn hline ih => exact ih fun hmem => h (List.mem_cons_of_mem c hmem)
  | case4 => rfl

/-- What follows brings no stray carriage return. -/
theorem hasStrayReturn_append {c : Char} (hc : c ≠ '\n') {k : List Char} (hk : '\r' ∉ c :: k)
    (cs : List Char) : hasStrayReturn (cs ++ c :: k) = hasStrayReturn cs := by
  fun_induction hasStrayReturn cs with
  | case1 cs ih => exact ih
  | case2 cs hline =>
      rw [List.cons_append, hasStrayReturn.eq_2]
      intro cs' heq
      cases cs with
      | nil => exact hc (List.cons.inj heq).1
      | cons e cs => exact hline cs (by rw [(List.cons.inj heq).1])
  | case3 d cs hreturn hline ih =>
      rw [List.cons_append, hasStrayReturn.eq_3 _ _ (fun _ hd _ => hline hd) hline, ih]
  | case4 => exact hasStrayReturn_eq_false hk

/-- A line comment has the same tokens when it goes on. -/
theorem comment?_append {c : Char} (hc : Breaks c) {k : List Char} (hk : '\r' ∉ c :: k)
    (cs : List Char) : comment? '/' [] (cs ++ c :: k) = comment? '/' [] cs := by
  have hline : c ≠ '\n' := hc.ne_of_mem (by decide)
  have hopener : c ≠ '/' := hc.ne_of_mem (by decide)
  have hdocumented : ∀ inner cs, documented? inner (cs ++ c :: k) = documented? inner cs :=
    fun inner cs => by rw [documented?, documented?, hasStrayReturn_append hline hk]
  match cs with
  | [] =>
    have hinner : c ≠ '!' := hc.ne_of_mem (by decide)
    rw [List.nil_append, comment?.eq_2 _ _ _ _ hinner, beq_eq_false_iff_ne.mpr hopener]
    rfl
  | d :: cs =>
    rw [List.cons_append]
    by_cases hd : d = '!'
    · subst hd
      exact hdocumented true cs
    · rw [comment?.eq_2 _ _ _ _ hd, comment?.eq_2 _ _ _ _ hd, hdocumented]
      cases cs with
      | nil => simp [bne, hopener]
      | cons e cs => rfl

/-- A comment that no line feed ends takes in what follows, up to the first line feed there. -/
theorem readPiece_append_of_opensLastLine {c : Char} (hc : Breaks c) {k : List Char}
    (hk : '\r' ∉ c :: k) {cs rest : List Char} {ts : List Token}
    (hopen : opensLastLine cs = true) (h : readPiece cs = some (ts, rest)) :
    rest = [] ∧ readPiece (cs ++ c :: k) = some (ts, (c :: k).dropWhile (· != '\n')) := by
  have hline : c ≠ '\n' := hc.ne_of_mem (by decide)
  have hreturn : c ≠ '\r' := fun heq => hk (heq ▸ List.mem_cons_self)
  have hbody : lineBody (c :: k) = c :: lineBody k :=
    lineBody.eq_4 c k (fun _ heq _ => hreturn heq) hline
  have hk' : '\r' ∉ c :: lineBody k := fun hmem =>
    hk (mem_of_mem_lineBody (hbody ▸ hmem))
  revert hopen
  fun_cases opensLastLine cs with
  | case1 cs =>
      intro hopen
      have hend : '\n' ∉ cs := by simpa using hopen
      have hdrop : ∀ d ∈ cs, (d != '\n') = true :=
        fun d hd => bne_iff_ne.mpr (ne_of_mem_of_not_mem hd hend)
      rw [readPiece, readLineComment, lineBody_eq_self hend] at h
      obtain ⟨comment, hcomment, heq⟩ := Option.map_eq_some_iff.mp h
      obtain ⟨rfl, rfl⟩ := Prod.mk.inj heq
      refine ⟨List.dropWhile_eq_nil_iff.mpr hdrop, ?_⟩
      rw [List.cons_append, List.cons_append, readPiece, readLineComment,
        lineBody_append_of_notMem hline k hend, hbody, comment?_append hc hk', hcomment,
        List.dropWhile_append_of_pos hdrop]
      rfl
  | case2 =>
      intro hopen
      cases hopen

/-- After a text that ends in a line comment, what follows on the same line adds no token. -/
theorem tokensWithin_append_of_endsInLineComment {c : Char} (hc : Breaks c) {k : List Char}
    (hk : '\r' ∉ c :: k) {m : Nat}
    (htail : tokensWithin (m + 1) ((c :: k).dropWhile (· != '\n')) = some []) {n : Nat}
    {cs : List Char} {ts : List Token} (h : tokensWithin n cs = some ts)
    (hopen : endsInLineCommentWithin n cs = true) :
    tokensWithin (n + m) (cs ++ c :: k) = some ts := by
  induction n generalizing cs ts with
  | zero => cases h
  | succ n ih =>
      by_cases hcs : cs = []
      · rw [hcs, endsInLineCommentWithin_nil] at hopen
        cases hopen
      · obtain ⟨piece, rest, us, hpiece, hrest, rfl⟩ := (tokensWithin_eq_some_iff hcs).mp h
        have hwritten := (isPrefixOf_unwritable_append hc k cs).resolve_right fun hbroken => by
          rw [hbroken, endsInLineCommentWithin_brokenOff] at hopen
          cases hopen
        rw [endsInLineCommentWithin_succ hpiece] at hopen
        have hcs' : cs ++ c :: k ≠ [] := by simp
        rw [Nat.succ_add]
        refine (tokensWithin_eq_some_iff hcs').mpr ?_
        cases hlast : opensLastLine cs with
        | true =>
            obtain ⟨rfl, hpiece'⟩ := readPiece_append_of_opensLastLine hc hk hlast hpiece
            obtain rfl := tokensWithin_nil hrest
            refine ⟨piece, _, [], hpiece', ?_, rfl⟩
            cases n with
            | zero => cases hrest
            | succ n =>
                rw [Nat.add_right_comm, Nat.add_comm n, Nat.add_right_comm]
                exact tokensWithin_add n htail
        | false =>
            rw [hlast, Bool.false_or] at hopen
            obtain ⟨piece', hpiece', hjoint⟩ := readPiece_append hc k hlast hwritten hpiece
            rcases hjoint with rfl | ⟨rfl, -⟩
            · exact ⟨_, _, us, hpiece', ih hrest hopen, rfl⟩
            · rw [endsInLineCommentWithin_nil] at hopen
              cases hopen

/-! ### Lifetimes and brackets -/

/-- Lifetimes are joined apart in two parts, unless a word starts the second. -/
theorem joinLifetimes_append {us : List Token} (hus : ∀ w rest, us ≠ .word w :: rest)
    (ts : List Token) : joinLifetimes (ts ++ us) = joinLifetimes ts ++ joinLifetimes us := by
  fun_induction joinLifetimes ts with
  | case1 w ts ih => rw [List.cons_append, List.cons_append, joinLifetimes, ih, List.cons_append]
  | case2 t ts hquote ih =>
      rw [List.cons_append, joinLifetimes.eq_2, ih, List.cons_append]
      intro w rest ht heq
      cases ts with
      | nil => exact hus w rest heq
      | cons u ts =>
          obtain ⟨rfl, -⟩ := List.cons.inj heq
          exact hquote w ts ht rfl
  | case3 => rfl

/-- Joining lifetimes keeps tokens respaced. -/
theorem Respaced.joinLifetimes {ts us : List Token} (h : Respaced ts us) :
    Respaced (joinLifetimes ts) (joinLifetimes us) := by
  rcases h with rfl | ⟨init, c, rfl, rfl⟩
  · exact .inl rfl
  · rw [joinLifetimes_append (by simp), joinLifetimes_append (by simp)]
    exact .inr ⟨_, c, rfl, rfl⟩

theorem balanced_concat_opening (b : Bracket) (opened : List Bracket) (ts : List Token) :
    balanced opened (ts ++ [.opening b]) = false := by
  fun_induction balanced opened ts with
  | case1 => rfl
  | case2 opened b' ts ih => exact ih
  | case3 b' ts => rfl
  | case4 b' ts o opened ih => rw [List.cons_append, balanced, ih, Bool.and_false]
  | case5 opened t ts hopening hclosing ih =>
      rw [List.cons_append, balanced.eq_5 _ _ _ hopening hclosing, ih]

/-- Balanced tokens do not end with an opening bracket. -/
theorem getLast?_ne_opening {ts : List Token} (h : balanced [] (joinLifetimes ts) = true)
    (b : Bracket) : ts.getLast? ≠ some (.opening b) := by
  intro hlast
  obtain ⟨init, rfl⟩ := List.getLast?_eq_some_iff.mp hlast
  rw [joinLifetimes_append (by simp)] at h
  exact Bool.false_ne_true ((balanced_concat_opening b [] _).symm.trans h)

/-! ### Texts -/

/-- Only the start of a text loses a byte order mark. -/
theorem dropByteOrderMark_append {c : Char} (hc : Breaks c) (k cs : List Char) :
    dropByteOrderMark (cs ++ c :: k) = dropByteOrderMark cs ++ c :: k := by
  cases cs with
  | nil =>
      have hmark : c ≠ '\ufeff' := hc.ne_of_mem (by decide)
      exact dropByteOrderMark.eq_2 _ fun cs heq => hmark (List.cons.inj heq).1
  | cons d cs =>
      by_cases hd : d = '\ufeff'
      · subst hd
        rfl
      · rw [dropByteOrderMark.eq_2 _ (by simpa using hd),
          dropByteOrderMark.eq_2 _ (by simpa using hd)]

/-- A text that may be written directly after a type: it starts with a character that ends every
word and literal, its first token is no word, and no token stands after its first line. -/
structure Continues (k : String) (ks : List Token) : Prop where
  breaks : ∃ c rest, k.toList = c :: rest ∧ Breaks c
  tokens : tokens? k = some ks
  ne_word : ∀ w rest, ks ≠ .word w :: rest
  noReturn : '\r' ∉ k.toList
  lastLine : tokensWithin (k.toList.length + 1) (k.toList.dropWhile (· != '\n')) = some []

section

variable {s k : String} {ts ks : List Token}

theorem tokens?_append {c : Char} (hc : Breaks c) {rest : List Char} (hk : k.toList = c :: rest) :
    tokens? (s ++ k) =
      (tokensWithin ((dropByteOrderMark s.toList).length + 1 + (c :: rest).length)
        (dropByteOrderMark s.toList ++ c :: rest)).map joinLifetimes := by
  rw [tokens?, String.toList_append, hk, dropByteOrderMark_append hc, List.length_append,
    Nat.add_right_comm]

/-- **Kept**: what follows a text that does not end in a line comment is read after it. -/
theorem Continues.tokens?_append (hk : Continues k ks) (hs : tokens? s = some ts)
    (hbalanced : balanced [] ts = true) (hclosed : endsInLineComment s = false) :
    ∃ us, tokens? (s ++ k) = some (us ++ ks) ∧ Respaced ts us := by
  obtain ⟨c, rest, hcs, hc⟩ := hk.breaks
  obtain ⟨raw, hraw, rfl⟩ := Option.map_eq_some_iff.mp hs
  obtain ⟨kraw, hkraw, hkeq⟩ := Option.map_eq_some_iff.mp hk.tokens
  have hdrop : dropByteOrderMark (c :: rest) = c :: rest := dropByteOrderMark_append hc rest []
  rw [hcs, hdrop] at hkraw
  obtain ⟨us, hread, hspaced⟩ :=
    tokensWithin_append hc hkraw hraw hclosed (getLast?_ne_opening hbalanced)
  refine ⟨joinLifetimes us, ?_, hspaced.joinLifetimes⟩
  have hword : ∀ w rest, kraw ≠ .word w :: rest := by
    rintro w rest rfl
    exact hk.ne_word w _ hkeq.symm
  rw [TypeExpr.tokens?_append hc hcs, hread, Option.map_some, joinLifetimes_append hword, hkeq]

/-- **Swallowed**: what follows a text that ends in a line comment adds no token to it. -/
theorem Continues.tokens?_append_of_endsInLineComment (hk : Continues k ks)
    (hs : tokens? s = some ts) (hopen : endsInLineComment s = true) :
    tokens? (s ++ k) = some ts := by
  obtain ⟨c, rest, hcs, hc⟩ := hk.breaks
  obtain ⟨raw, hraw, rfl⟩ := Option.map_eq_some_iff.mp hs
  have hreturn := hk.noReturn
  have htail := hk.lastLine
  rw [hcs] at hreturn htail
  have hread := tokensWithin_append_of_endsInLineComment hc hreturn htail hraw hopen
  rw [TypeExpr.tokens?_append hc hcs, hread, Option.map_some]

end

end AstForge.TypeExpr
