import AstForge.TypeExpr.Grammar

/-!
# Type expressions — the rules unfolded

The rules that refer to each other are taken to a depth that their weight bounds. The depth makes no
difference as long as it is enough, so a rule is its body over the rules that weigh less.

* `Rule.take_eq`: the equation of a rule.
* `take_type`: the equation of the rule of types.
-/

namespace AstForge.TypeExpr

/-! ### One step of taking -/

namespace Take

variable {α β : Type}

@[simp] theorem bind_apply (x : Take α) (f : α → Take β) (ts : List Token) :
    (x >>= f) ts = (x ts).bind fun p => f p.1 p.2 := rfl

@[simp] theorem pure_apply (a : α) (ts : List Token) : (pure a : Take α) ts = some (a, ts) := rfl

@[simp] theorem get_apply (ts : List Token) : (get : Take (List Token)) ts = some (ts, ts) := rfl

@[simp] theorem set_apply (ts ts' : List Token) : (set ts' : Take PUnit) ts = some (⟨⟩, ts') := rfl

@[simp] theorem failure_apply (ts : List Token) : (failure : Take α) ts = none := rfl

@[simp] theorem need_apply (phrase : Phrase) (ts : List Token) :
    need phrase ts = (phrase ts).map ((), ·) := rfl

/-- Skipping a phrase never fails. -/
theorem skip_apply (phrase : Phrase) (ts : List Token) :
    skip phrase ts = some ((phrase ts).isSome, (phrase ts).getD ts) := by
  rw [skip]
  cases phrase ts <;> rfl

@[simp] theorem map_apply (f : α → β) (x : Take α) (ts : List Token) :
    (f <$> x) ts = (x ts).map fun p => (f p.1, p.2) := by
  rw [Option.map_eq_bind]
  rfl

/-- A repetition that does not go on takes nothing. -/
theorem many_eq_nil {goesOn : List Token → Bool} (element : Take α) {ts : List Token}
    (h : goesOn ts = false) : many goesOn element ts = some ([], ts) := by
  simp [many, loop, rounds, h]

end Take

/-! ### Phrases -/

theorem starts_word? (word w : String) (ts : List Token) :
    (word? word).starts (.word w :: ts) = (w == word) := by
  rw [Phrase.starts, word?, wordWith?]
  cases w == word <;> rfl

/-- A word that is taken stands first and has the property. -/
theorem wordWith?_eq_some {p : String → Bool} {ts rest : List Token}
    (h : wordWith? p ts = some rest) : ∃ w, ts = .word w :: rest ∧ p w = true := by
  revert h
  fun_cases wordWith? p ts with
  | case1 w ts hp =>
      rintro ⟨⟩
      exact ⟨w, rfl, hp⟩
  | _ => exact nofun

theorem word?_eq_some {word : String} {ts rest : List Token} (h : word? word ts = some rest) :
    ts = .word word :: rest := by
  obtain ⟨w, rfl, hw⟩ := wordWith?_eq_some h
  rw [eq_of_beq hw]

/-- Tokens that start with a mark have it first, joint or not. -/
theorem exists_of_starts_mark? {c : Char} {ts : List Token} (h : (mark? c).starts ts = true) :
    ∃ joint rest, ts = .mark c joint :: rest := by
  rw [Phrase.starts, Option.isSome_iff_exists] at h
  obtain ⟨rest, h⟩ := h
  revert h
  fun_cases mark? c ts with
  | case1 d joint ts hc =>
      rintro ⟨⟩
      exact ⟨joint, rest, by rw [eq_of_beq hc]⟩
  | _ => exact nofun

theorem ne_nil_of_starts_mark? {c : Char} {ts : List Token} (h : (mark? c).starts ts = true) :
    ts ≠ [] := by
  rintro rfl
  cases h

theorem lifetime?_eq_some {ts rest : List Token} (h : lifetime? ts = some rest) :
    ts = .lifetime :: rest := by
  revert h
  fun_cases lifetime? ts with
  | case1 ts =>
      rintro ⟨⟩
      rfl
  | _ => exact nofun

/-! ### The equation of a rule -/

/-- Rules that agree on what weighs less than a bound are the same below it. -/
theorem Rules.below_congr {rules rules' : Rules} {bound : Nat}
    (h : ∀ {α : Type} (rule : Rule α) ts, rule.weight ts < bound →
      rules.take rule ts = rules'.take rule ts) : rules.below bound = rules'.below bound := by
  rw [Rules.below, Rules.below, Rules.mk.injEq]
  funext α rule ts
  split
  · next hlt => exact h rule ts hlt
  · rfl

/-- How deep the rules may nest makes no difference to a rule that weighs less. -/
theorem rulesWithin_take {n : Nat} {α : Type} (rule : Rule α) {ts : List Token}
    (h : rule.weight ts < n) : (rulesWithin n).take rule ts = rule.take ts := by
  induction n using Nat.strongRecOn generalizing α rule ts with
  | ind n ih =>
      cases n with
      | zero => cases h
      | succ n =>
          have hbelow : (rulesWithin n).below (rule.weight ts) =
              (rulesWithin (rule.weight ts)).below (rule.weight ts) :=
            Rules.below_congr fun rule' ts' hlt => by
              rw [ih n (by omega) rule' (by omega), ih (rule.weight ts) h rule' hlt]
          exact congrArg (fun rules => rule.body rules ts) hbelow

/-- **Unfolding**: a rule is its body, over the rules that weigh less. -/
theorem Rule.take_eq {α : Type} (rule : Rule α) (ts : List Token) :
    rule.take ts = rule.body (Rules.below ⟨Rule.take⟩ (rule.weight ts)) ts := by
  have hbelow : (rulesWithin (rule.weight ts)).below (rule.weight ts) =
      Rules.below ⟨Rule.take⟩ (rule.weight ts) :=
    Rules.below_congr fun rule' ts' hlt => rulesWithin_take rule' hlt
  exact congrArg (fun rules => rule.body rules ts) hbelow

/-- Below a bound, the rules that refer to each other are the rules themselves. -/
theorem below_take {bound : Nat} {α : Type} {rule : Rule α} {ts : List Token}
    (h : rule.weight ts < bound) : (Rules.below ⟨Rule.take⟩ bound).take rule ts = rule.take ts :=
  if_pos h

/-- The type rule, with what it takes inside at fewer tokens. -/
theorem take_type (plus : Bool) (ts : List Token) :
    (Rule.type plus).take ts =
      typeRule (Rules.below ⟨Rule.take⟩ (3 * ts.length + 2)) plus ts :=
  Rule.take_eq _ _

/-! ### Acceptance -/

/-- A rule takes all of the tokens. -/
def TakesAll {α : Type} (take : Take α) (ts : List Token) : Prop :=
  ∃ a, take ts = some (a, [])

/-- **A text is a type** when it has tokens, their brackets match, and the rule of types takes all
of them. -/
theorem accepts_eq_true_iff {s : String} :
    accepts s = true ↔ ∃ ts, tokens? s = some ts ∧ balanced [] ts = true ∧
      TakesAll (Rule.type true).take ts := by
  rw [accepts]
  cases tokens? s with
  | none => simp
  | some ts =>
      simp only [Option.some.injEq, exists_eq_left', Bool.and_eq_true, TakesAll]
      refine and_congr_right fun _ => ?_
      split
      · next form h => simp [h]
      · next h =>
          simp only [Bool.false_eq_true, false_iff, not_exists]
          exact h

end AstForge.TypeExpr
