import AstForge.Proofs.TypeExpr.Pieces
import AstForge.Proofs.TypeExpr.Rules

/-!
# Type expressions — references

The rule of types is told whether a `+` may continue the type; the type after an `&` takes none. So
a type and a reference to it are read alike up to the first `+` outside of brackets.

* `typeRule_plus`: without the `+`, the rule takes what it takes with it, or stops before a `+`.
* `takesAll_reference_iff`: a reference to a type is a type unless the type joins bounds by `+`.
* `accepts_reference_iff`: the same of texts, where a byte order mark may stand in the way as well.
-/

namespace AstForge.TypeExpr

/-! ### Where a `+` ends a type -/

/-- At `ts`, `short` takes what `long` takes, or stops before a `+`. -/
def StopsAtPlus {α : Type} (long short : Take α) (ts : List Token) : Prop :=
  short ts = long ts ∨ ∃ a rest, short ts = some (a, rest) ∧ (mark? '+').starts rest = true

namespace StopsAtPlus

variable {α β : Type} {ts : List Token}

/-- Steps in common do not change where the shorter of two rules stops. -/
theorem bind {x : Take α} {long short : α → Take β}
    (h : ∀ a rest, x ts = some (a, rest) → StopsAtPlus (long a) (short a) rest) :
    StopsAtPlus (x >>= long) (x >>= short) ts := by
  cases hx : x ts with
  | none => exact .inl (by simp [hx])
  | some p =>
      rcases h p.1 p.2 hx with h | ⟨a, rest, h, hplus⟩
      · exact .inl (by simp [hx, h])
      · exact .inr ⟨a, rest, by simp [hx, h], hplus⟩

/-- Nor does what is made of the tokens taken. -/
theorem map {long short : Take α} (h : StopsAtPlus long short ts) (f : α → β) :
    StopsAtPlus (do return f (← long)) (do return f (← short)) ts := by
  rcases h with h | ⟨a, rest, h, hplus⟩
  · exact .inl (by simp [h])
  · exact .inr ⟨f a, rest, by simp [h], hplus⟩

end StopsAtPlus

/-- Where a `+` may not follow, a named type is the same or stops before the `+`. -/
theorem namedType_plus (rules : Rules) (ts : List Token) :
    StopsAtPlus (namedType rules true) (namedType rules false) ts := by
  refine .bind fun form rest _ => .bind fun ts' rest' hget => ?_
  cases hget
  split
  · exact .inl rfl
  · refine .bind fun ts' rest' hget => ?_
    cases hget
    cases hplus : (mark? '+').starts rest with
    | true => exact .inr ⟨_, rest, rfl, hplus⟩
    | false => exact .inl rfl

/-- So is a type that starts with a bound. -/
theorem boundType_plus (rules : Rules) (ts : List Token) :
    StopsAtPlus (boundType rules true) (boundType rules false) ts := by
  refine .bind fun ts' rest hget => ?_
  cases hget
  split
  · next w rest =>
    split
    · exact .inl rfl
    · split
      · exact .inl rfl
      · split
        · exact (namedType_plus rules _).map fun form => if form = .name then .bound else form
        · exact .inl rfl
  · exact .inl rfl

theorem addedBounds_eq (rules : Rules) {ts : List Token} (h : (mark? '+').starts ts = false) :
    addedBounds rules ts = some ((), ts) := by
  simp [addedBounds, Take.many_eq_nil _ h]

/-- A type in parentheses, too, is the same or stops before the `+`. -/
theorem parenthesis_plus (rules : Rules) (ts : List Token) :
    StopsAtPlus (parenthesis rules true) (parenthesis rules false) ts := by
  refine .bind fun _ rest _ => ?_
  refine .bind fun ts' rest' hget => ?_
  cases hget
  split
  · exact .inl rfl
  · exact .inl rfl
  · exact .inl rfl
  · refine .bind fun form rest hform => ?_
    refine .bind fun comma rest' hcomma => ?_
    cases comma with
    | true => exact .inl rfl
    | false =>
        refine .bind fun _ rest hclosing => ?_
        -- Only a bound in parentheses is continued, and it need not be.
        cases form != .other with
        | false => exact .inl rfl
        | true =>
            cases hplus : (mark? '+').starts rest with
            | true => exact .inr ⟨_, rest, rfl, hplus⟩
            | false => exact .inl (by simp [addedBounds_eq rules hplus])

/-- Types that start with other words than `dyn` and `impl` do not depend on the `+`. -/
theorem wordType_eq (rules : Rules) {w : String} (hdyn : w ≠ "dyn") (himpl : w ≠ "impl") :
    wordType rules true w = wordType rules false w := by
  simp [wordType, hdyn, himpl]

/-- **The outer `+`**: outside of `dyn` and `impl`, the rule of types takes the same with and
without the `+`, or stops before a `+` without it. -/
theorem typeRule_plus (rules : Rules) {ts : List Token}
    (hdyn : (word? "dyn").starts ts = false) (himpl : (word? "impl").starts ts = false) :
    StopsAtPlus (typeRule rules true) (typeRule rules false) ts := by
  refine .bind fun ts' rest hget => ?_
  cases hget
  split
  · exact parenthesis_plus rules _
  · exact .inl rfl
  · exact .inl rfl
  · exact .inl rfl
  · exact .inl rfl
  · exact .inl rfl
  · exact .inl rfl
  · next w rest =>
    split
    · exact .inl rfl
    · split
      · exact .bind fun _ _ _ => .bind fun _ _ _ => boundType_plus rules _
      · split
        · exact namedType_plus rules _
        · rw [starts_word?, beq_eq_false_iff_ne] at hdyn himpl
          rw [wordType_eq rules hdyn himpl]
          exact .inl rfl
  · split
    · exact namedType_plus rules _
    · exact .inl rfl

/-! ### Bounds -/

/-- Where no `+` stands, there are no further bounds. -/
theorem furtherBounds_eq (rules : Rules) (place : BoundPlace) {ts : List Token}
    (h : (mark? '+').starts ts = false) : furtherBounds rules place ts = some (false, ts) := by
  have hplus : mark? '+' ts = none := by simpa [Phrase.starts] using h
  simp [furtherBounds, Take.loop, Take.rounds, Take.skip, hplus]

/-- A lifetime alone is no bounds. -/
theorem bounds_eq_none {rules : Rules} {place : BoundPlace} {ts rest : List Token}
    (hfirst : rules.take (.bound place) ts = some (.other, rest))
    (hplus : (mark? '+').starts rest = false) : bounds rules place true ts = none := by
  simp [bounds, hfirst, furtherBounds_eq rules place hplus]

/-- Bounds that reach the end without a further one need no `+`, and others do. -/
theorem bounds_plus {rules : Rules} {place : BoundPlace} {ts : List Token}
    (h : bounds rules place true ts = some ((), [])) :
    ∃ form rest, rules.take (.bound place) ts = some (form, rest) ∧
      (bounds rules place false ts = some ((), []) ↔ (mark? '+').starts rest = false) := by
  cases hfirst : rules.take (.bound place) ts with
  | none => simp [bounds, hfirst] at h
  | some p =>
      obtain ⟨form, rest⟩ := p
      refine ⟨form, rest, rfl, ?_⟩
      cases hplus : (mark? '+').starts rest with
      | false =>
          have hfurther := furtherBounds_eq rules place hplus
          simp only [bounds, Take.bind_apply, hfirst, Option.bind_some, hfurther, if_true] at h
          simpa [bounds, hfirst] using h
      | true =>
          have hne := ne_nil_of_starts_mark? hplus
          cases form with
          | trait => simp [bounds, hfirst, hne]
          | other => simp [bounds, hfirst]

/-- A lifetime is a bound. -/
theorem take_bound_lifetime (place : BoundPlace) (ts : List Token) :
    (Rule.bound place).take (.lifetime :: ts) = some (.other, ts) := by
  rw [Rule.take_eq]
  rfl

/-! ### Types that join bounds -/

/-- Takes the first of the bounds that a type joins by `+`: a lifetime, the bound after `dyn` or
`impl`, or a type that no `+` continues. -/
def firstBound (rules : Rules) : Take Unit := do
  match ← get with
  | .lifetime :: rest => set rest
  | .word "dyn" :: rest =>
    set rest
    let _ ← Take.skip (mark? '*')
    let _ ← rules.take (.bound .object)
  | .word "impl" :: rest =>
    set rest
    let _ ← rules.take (.bound .hidden)
  | _ =>
    let _ ← rules.take (.type false)

/-- Whether a type joins bounds by `+`. -/
def isJoined (ts : List Token) : Bool :=
  (firstBound ⟨Rule.take⟩ ts).any fun p => (mark? '+').starts p.2

section

variable {ts : List Token}

/-- The bounds of an object or of a hidden type, which start at `inner`. -/
theorem takesAll_of_bounds (place : BoundPlace) {inner : List Token}
    (hlength : inner.length < ts.length)
    (htake : ∀ plus, (Rule.type plus).take ts =
      (bounds (Rules.below ⟨Rule.take⟩ (3 * ts.length + 2)) place plus inner).map
        fun p => (.other, p.2))
    (hfirst : firstBound ⟨Rule.take⟩ ts = ((Rule.bound place).take inner).map fun p => ((), p.2))
    (h : TakesAll (Rule.type true).take ts) :
    TakesAll (Rule.type false).take ts ↔ isJoined ts = false := by
  have hall : ∀ plus, TakesAll (Rule.type plus).take ts ↔
      bounds (Rules.below ⟨Rule.take⟩ (3 * ts.length + 2)) place plus inner = some ((), []) := by
    intro plus
    simp only [TakesAll, htake plus, Option.map_eq_some_iff, Prod.exists, Prod.mk.injEq]
    constructor
    · rintro ⟨_, _, _, hbounds, -, rfl⟩
      exact hbounds
    · intro hbounds
      exact ⟨_, _, _, hbounds, rfl, rfl⟩
  obtain ⟨form, rest, hbound, hplus⟩ := bounds_plus ((hall true).mp h)
  have hweight : (Rule.bound place).weight inner < 3 * ts.length + 2 := by
    simp only [Rule.weight, Rule.rank]
    omega
  rw [below_take hweight] at hbound
  rw [hall false, hplus, isJoined, hfirst, hbound]
  rfl

/-- An object type is a type without the `+` unless it joins bounds. -/
theorem takesAll_dyn (ts : List Token) (h : TakesAll (Rule.type true).take (.word "dyn" :: ts)) :
    TakesAll (Rule.type false).take (.word "dyn" :: ts) ↔ isJoined (.word "dyn" :: ts) = false := by
  have hlength : ((mark? '*' ts).getD ts).length ≤ ts.length := by
    fun_cases mark? '*' ts <;> simp
  refine takesAll_of_bounds .object (Nat.lt_succ_of_le hlength) ?_ ?_ h
  · intro plus
    have hdyn : (Rule.type plus).take (.word "dyn" :: ts) =
        ((Take.skip (mark? '*') ts).bind fun p =>
          bounds (Rules.below ⟨Rule.take⟩ (3 * (Token.word "dyn" :: ts).length + 2)) .object plus
            p.2).bind fun p => some (.other, p.2) := by
      rw [take_type]
      rfl
    rw [hdyn, Take.skip_apply, Option.map_eq_bind]
    rfl
  · have hdyn : firstBound ⟨Rule.take⟩ (.word "dyn" :: ts) =
        (Take.skip (mark? '*') ts).bind fun p =>
          ((Rule.bound .object).take p.2).bind fun p => some ((), p.2) := rfl
    rw [hdyn, Take.skip_apply, Option.map_eq_bind]
    rfl

/-- A hidden type is a type without the `+` unless it joins bounds. -/
theorem takesAll_impl (ts : List Token)
    (h : TakesAll (Rule.type true).take (.word "impl" :: ts)) :
    TakesAll (Rule.type false).take (.word "impl" :: ts) ↔
      isJoined (.word "impl" :: ts) = false := by
  refine takesAll_of_bounds .hidden (Nat.lt_succ_self _) ?_ ?_ h
  · intro plus
    rw [take_type, Option.map_eq_bind]
    rfl
  · rw [Option.map_eq_bind]
    rfl

/-- Any other first bound is a type without the `+`. -/
theorem firstBound_eq (rules : Rules) (hlifetime : lifetime? ts = none)
    (hdyn : (word? "dyn").starts ts = false) (himpl : (word? "impl").starts ts = false) :
    firstBound rules ts = (rules.take (.type false) ts).map fun p => ((), p.2) := by
  simp only [firstBound, Take.bind_apply, Take.get_apply, Option.bind_some]
  split
  · cases hlifetime
  · cases hdyn
  · cases himpl
  · rw [Option.map_eq_bind]
    rfl

/-- A type that starts with no lifetime is a type without the `+` unless it joins bounds. -/
theorem takesAll_type_iff (hlifetime : lifetime? ts = none)
    (h : TakesAll (Rule.type true).take ts) :
    TakesAll (Rule.type false).take ts ↔ isJoined ts = false := by
  cases hdyn : word? "dyn" ts with
  | some rest =>
      obtain rfl := word?_eq_some hdyn
      exact takesAll_dyn rest h
  | none =>
      cases himpl : word? "impl" ts with
      | some rest =>
          obtain rfl := word?_eq_some himpl
          exact takesAll_impl rest h
      | none =>
          have hdyn : (word? "dyn").starts ts = false := by rw [Phrase.starts, hdyn]; rfl
          have himpl : (word? "impl").starts ts = false := by rw [Phrase.starts, himpl]; rfl
          rw [isJoined, firstBound_eq _ hlifetime hdyn himpl]
          obtain ⟨form, h⟩ := h
          rw [take_type] at h
          rcases typeRule_plus (Rules.below ⟨Rule.take⟩ (3 * ts.length + 2)) hdyn himpl with
            hsame | ⟨form', rest, hstop, hplus⟩
          · rw [h, ← take_type] at hsame
            have hend : (mark? '+').starts [] = false := rfl
            simp [TakesAll, hsame, hend]
          · rw [← take_type] at hstop
            have hne := ne_nil_of_starts_mark? hplus
            simp [TakesAll, hstop, hplus, hne]

/-! ### References -/

/-- A reference takes a type without the `+`, after a lifetime if there is one. -/
theorem take_reference (joint : Bool) {ts : List Token}
    (hmut : word? "mut" ((lifetime? ts).getD ts) = none) :
    (Rule.type true).take (.mark '&' joint :: ts) =
      ((Rule.type false).take ((lifetime? ts).getD ts)).map fun p => (.other, p.2) := by
  have hweight : (Rule.type false).weight ((lifetime? ts).getD ts) <
      3 * (Token.mark '&' joint :: ts).length + 2 := by
    have hlength : ((lifetime? ts).getD ts).length ≤ ts.length := by
      fun_cases lifetime? ts <;> simp
    simp only [Rule.weight, Rule.rank, List.length_cons]
    omega
  rw [take_type, Option.map_eq_bind, ← below_take hweight]
  simp only [typeRule, Take.bind_apply, Take.get_apply, Take.set_apply, Option.bind_some,
    Take.skip_apply, hmut]
  rfl

/-- No type starts with the word `mut`. -/
theorem word?_mut_eq_none {ts : List Token} {p : TypeForm × List Token}
    (h : (Rule.type true).take ts = some p) : word? "mut" ts = none := by
  cases hmut : word? "mut" ts with
  | none => rfl
  | some rest =>
      have hno : (Rule.type true).take (.word "mut" :: rest) = none := by
        rw [take_type]
        rfl
      rw [word?_eq_some hmut, hno] at h
      cases h

/-- A lifetime starts a type only with a `+` after it. -/
theorem plus_of_takesAll_lifetime (h : TakesAll (Rule.type true).take (.lifetime :: ts)) :
    (mark? '+').starts ts = true := by
  cases hplus : (mark? '+').starts ts with
  | true => rfl
  | false =>
      have hweight : (Rule.bound .object).weight (.lifetime :: ts) <
          3 * (Token.lifetime :: ts).length + 2 := Nat.lt_succ_self _
      have hbound := (below_take hweight).trans (take_bound_lifetime .object ts)
      have hnone : (Rule.type true).take (.lifetime :: ts) = none := by
        rw [take_type]
        exact congrArg (Option.bind · _) (bounds_eq_none hbound hplus)
      obtain ⟨form, h⟩ := h
      cases hnone.symm.trans h

/-- **References**: a reference to a type is a type unless the type joins bounds by `+`. -/
theorem takesAll_reference_iff (joint : Bool) (h : TakesAll (Rule.type true).take ts) :
    TakesAll (Rule.type true).take (.mark '&' joint :: ts) ↔ isJoined ts = false := by
  cases hlifetime : lifetime? ts with
  | none =>
      have hmut := word?_mut_eq_none h.choose_spec
      rw [← takesAll_type_iff hlifetime h]
      simp [TakesAll, take_reference joint, hlifetime, hmut]
  | some rest =>
      -- The reference takes the lifetime for its own, and the `+` after it starts no type.
      obtain rfl := lifetime?_eq_some hlifetime
      have hplus := plus_of_takesAll_lifetime h
      obtain ⟨joint', rest, rfl⟩ := exists_of_starts_mark? hplus
      have hnone : (Rule.type false).take (.mark '+' joint' :: rest) = none := by
        rw [take_type]
        cases joint' <;> rfl
      have hjoined : isJoined (.lifetime :: .mark '+' joint' :: rest) = true := hplus
      have hmut : word? "mut" (.mark '+' joint' :: rest) = none := rfl
      simp [TakesAll, take_reference joint, lifetime?, hmut, hnone, hjoined]

end

/-! ### Texts -/

theorem readPiece_ampersand (cs : List Char) :
    readPiece ('&' :: cs) = some ([.mark '&' (startsMark cs)], cs) := rfl

theorem readMarkOrWord_byteOrderMark (cs : List Char) : readMarkOrWord ('\ufeff' :: cs) = none := by
  have hname : readName ('\ufeff' :: cs) = none := by
    cases hname : readName ('\ufeff' :: cs) with
    | none => rfl
    | some p =>
        have hstart := isWordStart_of_readName hname
        rw [List.head?_cons, Option.any_some] at hstart
        exact absurd hstart (by decide +kernel)
  have hmark : startsMark ('\ufeff' :: cs) = false := by
    rw [Bool.eq_false_iff]
    exact fun h => absurd (isMark_of_startsMark h) (by decide)
  rw [readMarkOrWord.eq_3 _ _ (by decide), hmark, hname]
  simp

/-- A byte order mark is skipped at the start of a text and is no piece elsewhere. -/
theorem readPiece_byteOrderMark (cs : List Char) : readPiece ('\ufeff' :: cs) = none := by
  have hliteral : readLiteral ('\ufeff' :: cs) = none := by
    rw [readLiteral_cons (by decide)]
    rfl
  have htoken : readToken ('\ufeff' :: cs) = none := by
    have hbracket : bracket? '\ufeff' = none := by decide
    have hwritten : unwritable.isPrefixOf ('\ufeff' :: cs) = false := rfl
    rw [readToken, hwritten, hbracket, hliteral, readMarkOrWord_byteOrderMark]
    rfl
  have hblank : isSeparator '\ufeff' = false := by decide
  rw [readPiece.eq_3 _ (by simp) (by simp), readSeparatorOrToken, htoken]
  simp [hblank]

/-- The tokens of a reference are its mark and those of the type, which starts with no byte order
mark. -/
theorem tokens?_ampersand (s : String) :
    tokens? ("&" ++ s) =
      if s.toList.head? = some '\ufeff' then none
      else (tokens? s).map (.mark '&' (startsMark s.toList) :: ·) := by
  have hdrop : dropByteOrderMark ("&" ++ s).toList = '&' :: s.toList := by
    rw [String.toList_append]
    rfl
  rw [tokens?, hdrop, List.length_cons, tokensWithin.eq_3 _ _ (by simp), readPiece_ampersand,
    Option.bind_some]
  cases hcs : s.toList with
  | nil =>
      rw [tokens?, hcs]
      rfl
  | cons c cs =>
      by_cases hc : c = '\ufeff'
      · subst hc
        rw [tokensWithin.eq_3 _ _ (by simp), readPiece_byteOrderMark]
        rfl
      · have hdrop' : dropByteOrderMark (c :: cs) = c :: cs :=
          dropByteOrderMark.eq_2 _ (by simpa using hc)
        rw [tokens?, hcs, hdrop', if_neg (by simpa using hc)]
        cases tokensWithin ((c :: cs).length + 1) (c :: cs) with
        | none => rfl
        | some ts => rfl

/-- Whether a text is a type that joins bounds by `+`. -/
def joinsBounds (s : String) : Bool :=
  (tokens? s).any isJoined

/-- **References**: the reference to a type is a type unless the type starts with a byte order mark,
which stands only at the start of a text, or joins bounds by `+`. -/
theorem accepts_reference_iff {s : String} (h : accepts s = true) :
    accepts ("&" ++ s) = true ↔ s.toList.head? ≠ some '\ufeff' ∧ joinsBounds s = false := by
  obtain ⟨ts, hts, hbalanced, hall⟩ := accepts_eq_true_iff.mp h
  rw [accepts_eq_true_iff, tokens?_ampersand, joinsBounds, hts]
  by_cases hmark : s.toList.head? = some '\ufeff'
  · simp [hmark]
  · have hbalanced' : balanced [] (.mark '&' (startsMark s.toList) :: ts) = true := hbalanced
    simp [hmark, hbalanced', takesAll_reference_iff _ hall]

end AstForge.TypeExpr
