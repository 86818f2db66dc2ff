import AstForge.Proofs.Declaration.Arrows
import AstForge.Proofs.Declaration.Segments

/-!
# Declarations — matching brackets

Which brackets of a text belong together.  A closing bracket matches the latest opening bracket of
its kind that is still open, so brackets of two kinds may cross, as in `<(>)`.  `bracketPairs` walks
through a text with the list of the open brackets, and gives the pairs if every bracket gets its
partner.

The reader of a field list keeps no such list.  It has one count for all three kinds of brackets,
and lets a closing bracket pass when the count is zero.

* `Matching.length_opened_after`: where brackets match, the count is the length of the list.
* `Matching.opened_eq_nil_iff`: the list is empty at a place exactly when no pair encloses it.
* `exists_bracketPairs_of_mem`: the pairs of a piece are pairs of the whole text.
* `splitFields_cuts_outside_pairs`: a field list is cut at the commas that no pair encloses.
-/

namespace AstForge

open Text

/-! ### Pairs of brackets -/

/-- A bracket that is open, and its place in the text. -/
structure OpenBracket where
  place : Nat
  bracket : Char

/-- Whether `c` is the closing bracket of this kind. -/
def OpenBracket.closedBy (c : Char) (o : OpenBracket) : Bool :=
  closer o.bracket == c

/-- The places of two brackets that belong together. -/
structure BracketPair where
  left : Nat
  right : Nat
  deriving DecidableEq

/-- The brackets of a text up to some place: those that are open, the latest first, and the pairs
that have closed. -/
structure Matching where
  opened : List OpenBracket
  pairs : List BracketPair

namespace Matching

/-- The brackets before a text. -/
def start : Matching := ⟨[], []⟩

/-- The brackets after the character `c` at `place`.  A closing bracket takes the latest open
bracket of its kind; if there is none, the brackets do not match. -/
def next (m : Matching) (place : Nat) (c : Char) : Option Matching :=
  if isOpening c then some ⟨⟨place, c⟩ :: m.opened, m.pairs⟩
  else if isClosing c then
    match m.opened.find? (OpenBracket.closedBy c) with
    | some o => some ⟨m.opened.eraseP (OpenBracket.closedBy c), ⟨o.place, place⟩ :: m.pairs⟩
    | none => none
  else some m

/-- The brackets after the text `cs`, which starts at `place`. -/
def after (m : Matching) (place : Nat) : List Char → Option Matching
  | [] => some m
  | c :: cs => (m.next place c).bind (·.after (place + 1) cs)

end Matching

/-- The pairs of brackets of a text, if each closing bracket matches and none is left open. -/
def bracketPairs (cs : List Char) : Option (List BracketPair) :=
  match Matching.start.after 0 cs with
  | some ⟨[], pairs⟩ => some pairs
  | _ => none

/-- The place lies between the two brackets. -/
def BracketPair.Encloses (p : BracketPair) (place : Nat) : Prop :=
  p.left < place ∧ place < p.right

/-- No bracket of a pair stands between the two of another pair without its partner. -/
def CrossingFree (pairs : List BracketPair) : Prop :=
  ∀ p ∈ pairs, ∀ q ∈ pairs, p.left < q.left → q.left < p.right → q.right < p.right

instance (p : BracketPair) (place : Nat) : Decidable (p.Encloses place) :=
  inferInstanceAs (Decidable (_ ∧ _))

instance (pairs : List BracketPair) : Decidable (CrossingFree pairs) :=
  inferInstanceAs (Decidable (∀ p ∈ pairs, ∀ q ∈ pairs, _))

/-- A text has pairs when it can be walked through and no bracket is left open. -/
theorem bracketPairs_eq_some_iff {cs : List Char} {pairs : List BracketPair} :
    bracketPairs cs = some pairs ↔ Matching.start.after 0 cs = some ⟨[], pairs⟩ := by
  rw [bracketPairs]
  split
  · next own h => simp [h]
  · next h => simpa using h pairs

namespace Matching

/-- **What a character does**: it opens a bracket, closes the latest of its kind, or leaves the
brackets as they are. -/
theorem next_eq_some {m m' : Matching} {place : Nat} {c : Char} (h : m.next place c = some m') :
    (isOpening c ∧ m' = ⟨⟨place, c⟩ :: m.opened, m.pairs⟩) ∨
      (isOpening c = false ∧ isClosing c ∧ ∃ later o earlier,
        m.opened = later ++ o :: earlier ∧ o.closedBy c ∧
        (∀ x ∈ later, x.closedBy c = false) ∧
        m' = ⟨later ++ earlier, ⟨o.place, place⟩ :: m.pairs⟩) ∨
      (isOpening c = false ∧ isClosing c = false ∧ m' = m) := by
  rw [next] at h
  split at h
  · next hopen => exact .inl ⟨hopen, (Option.some.inj h).symm⟩
  · next hopen =>
      rw [Bool.not_eq_true] at hopen
      split at h
      · next hclose =>
          split at h
          · next o hfind =>
              obtain rfl := Option.some.inj h
              obtain ⟨ho, later, earlier, hopened, hlater⟩ := List.find?_eq_some_iff_append.mp hfind
              refine .inr (.inl ⟨hopen, hclose, later, o, earlier, hopened, ho,
                by simpa using hlater, ?_⟩)
              rw [hopened, List.eraseP_append_right _ (by simpa using hlater),
                List.eraseP_cons_of_pos ho]
          · cases h
      · next hclose =>
          exact .inr (.inr ⟨hopen, by simpa using hclose, (Option.some.inj h).symm⟩)

theorem after_append (m : Matching) (place : Nat) (cs ds : List Char) :
    m.after place (cs ++ ds) = (m.after place cs).bind (·.after (place + cs.length) ds) := by
  induction cs generalizing m place with
  | nil => rfl
  | cons c cs ih =>
      have hplace : place + (c :: cs).length = place + 1 + cs.length := by
        rw [List.length_cons, Nat.add_right_comm, Nat.add_assoc]
      rw [List.cons_append, after, after, Option.bind_assoc, hplace]
      exact Option.bind_congr fun m' _ => ih m' (place + 1)

/-- A comma leaves the brackets as they are. -/
theorem after_append_comma_eq_some {m m' : Matching} {place : Nat} {before rest : List Char}
    (h : m.after place (before ++ ',' :: rest) = some m') :
    ∃ k, m.after place before = some k ∧ k.after (place + before.length + 1) rest = some m' := by
  rw [after_append, Option.bind_eq_some_iff] at h
  exact h

/-! ### The count of open brackets -/

/-- One character changes the number of open brackets as it changes the count. -/
theorem length_opened_next {m m' : Matching} {place : Nat} {c : Char}
    (h : m.next place c = some m') : m'.opened.length = bracketDepth m.opened.length c := by
  rcases next_eq_some h with ⟨ho, rfl⟩ | ⟨ho, hc, later, o, earlier, hm, -, -, rfl⟩ | ⟨ho, hc, rfl⟩
  · rw [bracketDepth_of_isOpening ho, List.length_cons]
  · rw [bracketDepth_of_isClosing ho hc, hm, List.length_append, List.length_append,
      List.length_cons, ← Nat.add_assoc, Nat.add_sub_cancel]
  · rw [bracketDepth_of_not ho hc]

/-- **The count of the reader** is the number of open brackets, of whatever kinds they are: it is
above zero whenever a closing bracket matches, so it never has to stop there. -/
theorem length_opened_after {m m' : Matching} {place : Nat} {cs : List Char}
    (h : m.after place cs = some m') : m'.opened.length = depthAfter m.opened.length cs := by
  induction cs generalizing m place with
  | nil =>
      obtain rfl := Option.some.inj h
      rfl
  | cons c cs ih =>
      rw [after, Option.bind_eq_some_iff] at h
      obtain ⟨k, hk, h⟩ := h
      rw [ih h, length_opened_next hk]
      rfl

/-! ### What encloses a place -/

/-- A character opens at most the bracket that it is. -/
theorem mem_opened_of_next {m m' : Matching} {place : Nat} {c : Char} (h : m.next place c = some m')
    {o : OpenBracket} (ho : o ∈ m'.opened) : o ∈ m.opened ∨ o.place = place := by
  rcases next_eq_some h with ⟨-, rfl⟩ | ⟨-, -, later, x, earlier, hm, -, -, rfl⟩ | ⟨-, -, rfl⟩
  · rcases List.mem_cons.mp ho with rfl | ho
    · exact .inr rfl
    · exact .inl ho
  · rw [hm]
    exact .inl (((List.sublist_cons_self x earlier).append_left later).subset ho)
  · exact .inl ho

/-- A character closes at most a pair that it ends. -/
theorem mem_pairs_of_next {m m' : Matching} {place : Nat} {c : Char} (h : m.next place c = some m')
    {p : BracketPair} (hp : p ∈ m'.pairs) :
    p ∈ m.pairs ∨ p.right = place ∧ ∃ o ∈ m.opened, o.place = p.left := by
  rcases next_eq_some h with ⟨-, rfl⟩ | ⟨-, -, later, o, earlier, hm, -, -, rfl⟩ | ⟨-, -, rfl⟩
  · exact .inl hp
  · rcases List.mem_cons.mp hp with rfl | hp
    · exact .inr ⟨rfl, o, by simp [hm], rfl⟩
    · exact .inl hp
  · exact .inl hp

/-- What the brackets `m` become from `place` on: pairs stay, an open bracket stays open or gets its
partner there, and what is new has its place there. -/
structure Extends (place : Nat) (m m' : Matching) : Prop where
  pairs : m.pairs ⊆ m'.pairs
  opened : ∀ o ∈ m.opened, o ∈ m'.opened ∨ ∃ p ∈ m'.pairs, p.left = o.place ∧ place ≤ p.right
  newOpened : ∀ o ∈ m'.opened, o ∈ m.opened ∨ place ≤ o.place
  newPairs : ∀ p ∈ m'.pairs, p ∈ m.pairs ∨
    place ≤ p.right ∧ ((∃ o ∈ m.opened, o.place = p.left) ∨ place ≤ p.left)

theorem Extends.refl (place : Nat) (m : Matching) : Extends place m m :=
  ⟨List.Subset.refl _, fun _ => .inl, fun _ => .inl, fun _ => .inl⟩

theorem Extends.trans {place place' : Nat} {m k m' : Matching} (hle : place ≤ place')
    (h : Extends place m k) (h' : Extends place' k m') : Extends place m m' := by
  refine ⟨List.Subset.trans h.pairs h'.pairs, fun o ho => ?_, fun o ho => ?_, fun p hp => ?_⟩
  · rcases h.opened o ho with ho | ⟨p, hp, hpo⟩
    · exact (h'.opened o ho).imp_right fun ⟨p, hp, hleft, hright⟩ =>
        ⟨p, hp, hleft, hle.trans hright⟩
    · exact .inr ⟨p, h'.pairs hp, hpo⟩
  · rcases h'.newOpened o ho with ho | hplace
    · exact h.newOpened o ho
    · exact .inr (hle.trans hplace)
  · rcases h'.newPairs p hp with hp | ⟨hright, ⟨o, ho, hleft⟩ | hleft⟩
    · exact h.newPairs p hp
    · refine .inr ⟨hle.trans hright, ?_⟩
      exact (h.newOpened o ho).imp (fun ho => ⟨o, ho, hleft⟩) fun hplace => hleft ▸ hplace
    · exact .inr ⟨hle.trans hright, .inr (hle.trans hleft)⟩

theorem extends_next {m m' : Matching} {place : Nat} {c : Char} (h : m.next place c = some m') :
    Extends place m m' := by
  have hopened : ∀ o ∈ m'.opened, o ∈ m.opened ∨ place ≤ o.place := fun o ho =>
    (mem_opened_of_next h ho).imp_right Eq.ge
  have hpairs : ∀ p ∈ m'.pairs, p ∈ m.pairs ∨
      place ≤ p.right ∧ ((∃ o ∈ m.opened, o.place = p.left) ∨ place ≤ p.left) := fun p hp =>
    (mem_pairs_of_next h hp).imp_right fun ⟨hright, ho⟩ => ⟨hright.ge, .inl ho⟩
  rcases next_eq_some h with ⟨-, rfl⟩ | ⟨-, -, later, o, earlier, hm, -, -, rfl⟩ | ⟨-, -, rfl⟩
  · exact ⟨List.Subset.refl _, fun x hx => .inl (List.mem_cons_of_mem _ hx), hopened, hpairs⟩
  · refine ⟨List.subset_cons_self _ _, fun x hx => ?_, hopened, hpairs⟩
    -- Only the bracket that finds its partner is no longer open.
    rw [hm, List.mem_append, List.mem_cons] at hx
    rcases hx with hx | rfl | hx
    · exact .inl (List.mem_append_left _ hx)
    · exact .inr ⟨_, List.mem_cons_self, rfl, le_rfl⟩
    · exact .inl (List.mem_append_right _ hx)
  · exact .refl place _

/-- A text only adds to the brackets before it, from its own place on. -/
theorem extends_after {m m' : Matching} {place : Nat} {cs : List Char}
    (h : m.after place cs = some m') : Extends place m m' := by
  induction cs generalizing m place with
  | nil =>
      obtain rfl := Option.some.inj h
      exact .refl place m
  | cons c cs ih =>
      rw [after, Option.bind_eq_some_iff] at h
      obtain ⟨k, hk, h⟩ := h
      exact (extends_next hk).trans (Nat.le_succ place) (ih h)

/-- All brackets stand before `place`. -/
structure Below (place : Nat) (m : Matching) : Prop where
  opened : ∀ o ∈ m.opened, o.place < place
  pairs : ∀ p ∈ m.pairs, p.right < place

theorem below_start : start.Below 0 :=
  ⟨by simp [start], by simp [start]⟩

theorem Below.next {m m' : Matching} {place : Nat} {c : Char} (hm : m.Below place)
    (h : m.next place c = some m') : m'.Below (place + 1) := by
  refine ⟨fun o ho => ?_, fun p hp => ?_⟩
  · rcases mem_opened_of_next h ho with ho | heq
    · exact Nat.lt_succ_of_lt (hm.opened o ho)
    · exact Nat.lt_succ_of_le heq.le
  · rcases mem_pairs_of_next h hp with hp | ⟨heq, -⟩
    · exact Nat.lt_succ_of_lt (hm.pairs p hp)
    · exact Nat.lt_succ_of_le heq.le

/-- A text adds no bracket beyond its end. -/
theorem Below.after {m m' : Matching} {place : Nat} {cs : List Char} (hm : m.Below place)
    (h : m.after place cs = some m') : m'.Below (place + cs.length) := by
  induction cs generalizing m place with
  | nil =>
      obtain rfl := Option.some.inj h
      exact hm
  | cons c cs ih =>
      rw [Matching.after, Option.bind_eq_some_iff] at h
      obtain ⟨k, hk, h⟩ := h
      rw [List.length_cons, Nat.add_comm _ 1, ← Nat.add_assoc]
      exact ih (hm.next hk) h

/-- **What is open at a place** is what has its partner after it. -/
theorem opened_eq_nil_iff {place : Nat} {m : Matching} {pairs : List BracketPair}
    (hm : m.Below place) (h : Extends (place + 1) m ⟨[], pairs⟩) :
    m.opened = [] ↔ ¬ ∃ p ∈ pairs, p.Encloses place := by
  constructor
  · rintro hnil ⟨p, hp, hleft, hright⟩
    rcases h.newPairs p hp with hp | ⟨-, ⟨o, ho, -⟩ | hplace⟩
    · exact Nat.lt_asymm hright (hm.pairs p hp)
    · rw [hnil] at ho
      cases ho
    · exact Nat.not_le_of_lt hleft (Nat.le_of_succ_le hplace)
  · intro hnone
    refine List.eq_nil_iff_forall_not_mem.mpr fun o ho => ?_
    rcases h.opened o ho with hopen | ⟨p, hp, hleft, hright⟩
    · cases hopen
    · exact hnone ⟨p, hp, hleft ▸ hm.opened o ho, hright⟩

end Matching

/-- **The count at a comma** is 0 exactly when no pair encloses the comma. -/
theorem depthAfter_eq_zero_iff {before rest : List Char} {pairs : List BracketPair}
    (h : bracketPairs (before ++ ',' :: rest) = some pairs) :
    depthAfter 0 before = 0 ↔ ¬ ∃ p ∈ pairs, p.Encloses before.length := by
  obtain ⟨m, hm, hrest⟩ := Matching.after_append_comma_eq_some (bracketPairs_eq_some_iff.mp h)
  rw [Nat.zero_add] at hrest
  have hbelow : m.Below (0 + before.length) :=
    Matching.below_start.after hm
  rw [Nat.zero_add] at hbelow
  have hlength : m.opened.length = depthAfter 0 before := Matching.length_opened_after hm
  rw [← hlength, List.length_eq_zero_iff]
  exact Matching.opened_eq_nil_iff hbelow (Matching.extends_after hrest)

/-! ### The pairs of a piece -/

/-- The same bracket, `n` places further on. -/
def OpenBracket.moved (n : Nat) (o : OpenBracket) : OpenBracket :=
  ⟨n + o.place, o.bracket⟩

/-- The same pair, `n` places further on. -/
def BracketPair.moved (n : Nat) (p : BracketPair) : BracketPair :=
  ⟨n + p.left, n + p.right⟩

/-- The same brackets, `n` places further on and after the pairs `closed`. -/
def Matching.moved (n : Nat) (closed : List BracketPair) (m : Matching) : Matching :=
  ⟨m.opened.map (·.moved n), m.pairs.map (·.moved n) ++ closed⟩

theorem BracketPair.moved_moved (n k : Nat) (p : BracketPair) :
    (p.moved k).moved n = p.moved (n + k) := by
  simp [moved, Nat.add_assoc]

namespace Matching

/-- Brackets match alike wherever the text stands. -/
theorem next_moved (n : Nat) (closed : List BracketPair) (m : Matching) (place : Nat) (c : Char) :
    (m.moved n closed).next (n + place) c = (m.next place c).map (·.moved n closed) := by
  have hkind : OpenBracket.closedBy c ∘ OpenBracket.moved n = OpenBracket.closedBy c := rfl
  rw [next, next]
  split
  · rfl
  · split
    · simp only [moved, List.find?_map, List.eraseP_map, hkind]
      cases m.opened.find? (OpenBracket.closedBy c) <;> rfl
    · rfl

/-- A text that stands further on has the same pairs, further on. -/
theorem after_moved (n : Nat) (closed : List BracketPair) (m : Matching) (place : Nat)
    (cs : List Char) :
    (m.moved n closed).after (n + place) cs = (m.after place cs).map (·.moved n closed) := by
  induction cs generalizing m place with
  | nil => rfl
  | cons c cs ih =>
      rw [after, after, next_moved, Option.bind_map, Option.map_bind]
      exact Option.bind_congr fun k _ => ih k (place + 1)

end Matching

/-- Where no bracket is open, the pairs before a comma and those after it are matched apart. -/
theorem bracketPairs_append_comma {piece rest : List Char} {pairs : List BracketPair}
    (hd : depthAfter 0 piece = 0) (h : bracketPairs (piece ++ ',' :: rest) = some pairs) :
    ∃ own others, bracketPairs piece = some own ∧ bracketPairs rest = some others ∧
      pairs = others.map (·.moved (piece.length + 1)) ++ own := by
  obtain ⟨⟨opened, own⟩, hm, hrest⟩ :=
    Matching.after_append_comma_eq_some (bracketPairs_eq_some_iff.mp h)
  obtain rfl : opened = [] := by
    rw [← List.length_eq_zero_iff]
    exact (Matching.length_opened_after hm).trans hd
  rw [Nat.zero_add] at hrest
  have hmoved := Matching.after_moved (piece.length + 1) own Matching.start 0 rest
  obtain ⟨⟨opened, others⟩, hothers, heq⟩ := Option.map_eq_some_iff.mp (hmoved.symm.trans hrest)
  obtain ⟨hnil, hpairs⟩ := Matching.mk.inj heq
  obtain rfl : opened = [] := List.map_eq_nil_iff.mp hnil
  exact ⟨own, others, bracketPairs_eq_some_iff.mpr hm, bracketPairs_eq_some_iff.mpr hothers,
    hpairs.symm⟩

/-- **The brackets of a piece** match among themselves, as they do in the whole text. -/
theorem exists_bracketPairs_of_mem {ps : List (List Char)} (hps : Pieces 0 ps)
    {pairs : List BracketPair} (h : bracketPairs ([','].intercalate ps) = some pairs)
    {piece : List Char} (hpiece : piece ∈ ps) :
    ∃ n own, bracketPairs piece = some own ∧ ∀ p ∈ own, p.moved n ∈ pairs := by
  induction ps generalizing pairs with
  | nil => cases hpiece
  | cons first ps ih =>
      cases ps with
      | nil =>
          obtain rfl := List.mem_singleton.mp hpiece
          refine ⟨0, pairs, by simpa using h, fun p hp => ?_⟩
          simpa [BracketPair.moved] using hp
      | cons second ps =>
          obtain ⟨-, hd, hps⟩ := hps
          rw [List.intercalate_cons_cons, List.append_assoc, List.singleton_append] at h
          obtain ⟨own, others, hown, hothers, rfl⟩ := bracketPairs_append_comma hd h
          rcases List.mem_cons.mp hpiece with rfl | hpiece
          · refine ⟨0, own, hown, fun p hp => List.mem_append_right _ ?_⟩
            simpa [BracketPair.moved] using hp
          · obtain ⟨n, inner, hinner, hsub⟩ := ih hps hothers hpiece
            refine ⟨first.length + 1 + n, inner, hinner, fun p hp => List.mem_append_left _ ?_⟩
            rw [← BracketPair.moved_moved]
            exact List.mem_map_of_mem (hsub p hp)

/-- Pairs that are found among others, further on, cross only if the others do. -/
theorem CrossingFree.of_moved {pairs own : List BracketPair} (h : CrossingFree pairs) {n : Nat}
    (hsub : ∀ p ∈ own, p.moved n ∈ pairs) : CrossingFree own := by
  intro p hp q hq hleft hright
  have hmoved := h _ (hsub p hp) _ (hsub q hq) (Nat.add_lt_add_left hleft n)
    (Nat.add_lt_add_left hright n)
  exact Nat.lt_of_add_lt_add_left hmoved

/-! ### Cuts -/

/-- The field list `cs` is cut between `before` and `after`: some first pieces make up the one, and
the other pieces make up the other. -/
def CutBetween (cs before after : List Char) : Prop :=
  ∃ qs rs, qs ≠ [] ∧ rs ≠ [] ∧ splitFields cs = qs ++ rs ∧
    [','].intercalate qs = before ∧ [','].intercalate rs = after

theorem splitFields_append_comma (before after : List Char) :
    splitFields (before ++ ',' :: after) = splitCommas 0 (before ++ ',' :: after) :=
  splitFields_of_not_blank fun h => absurd (h ',' (by simp)) (by decide)

/-- **A cut** is made at the commas where the count is 0. -/
theorem cutBetween_iff {before after : List Char} :
    CutBetween (before ++ ',' :: after) before after ↔ depthAfter 0 before = 0 := by
  rw [CutBetween, splitFields_append_comma]
  constructor
  · rintro ⟨qs, rs, hqs, hrs, hsplit, rfl, -⟩
    exact (segments_iff.mpr rfl : Segments _ _).commas.between qs rs hsplit hqs hrs
  · intro h
    exact ⟨_, _, splitCommas_ne_nil 0 before, splitCommas_ne_nil 0 after,
      splitCommas_append_of_depthAfter h after, intercalate_splitCommas 0 before,
      intercalate_splitCommas 0 after⟩

/-- **A field list is cut outside pairs.**  Where the brackets of a field list match, kind by kind,
the count at every place is the number of brackets that are open there, and the list is cut at a
comma exactly when no pair encloses the comma; nothing else is lost, unless the list is blank.  So
the brackets of every piece match as well, and those of no piece cross if those of the list do
not. -/
theorem splitFields_cuts_outside_pairs {cs : List Char} {pairs : List BracketPair}
    (h : bracketPairs cs = some pairs) :
    (∀ before after, cs = before ++ after → ∃ m, Matching.start.after 0 before = some m ∧
      depthAfter 0 before = m.opened.length) ∧
    ((∃ c ∈ cs, isBlank c = false) → [','].intercalate (splitFields cs) = cs) ∧
    (∀ before after, cs = before ++ ',' :: after →
      (CutBetween cs before after ↔ ¬ ∃ p ∈ pairs, p.Encloses before.length)) ∧
    ∀ piece ∈ splitFields cs, ∃ own, bracketPairs piece = some own ∧
      (CrossingFree pairs → CrossingFree own) := by
  refine ⟨?_, ?_, ?_, fun piece hpiece => ?_⟩
  · rintro before after rfl
    have hafter := bracketPairs_eq_some_iff.mp h
    rw [Matching.after_append, Option.bind_eq_some_iff] at hafter
    obtain ⟨m, hm, -⟩ := hafter
    exact ⟨m, hm, (Matching.length_opened_after hm).symm⟩
  · rintro ⟨c, hc, hblank⟩
    have hne : ¬ ∀ c ∈ cs, isBlank c := fun hall => by simp [hall c hc] at hblank
    rw [splitFields_of_not_blank hne, intercalate_splitCommas]
  · rintro before after rfl
    rw [cutBetween_iff, depthAfter_eq_zero_iff h]
  · by_cases hblank : ∀ c ∈ cs, isBlank c
    · rw [splitFields_of_blank hblank] at hpiece
      cases hpiece
    · rw [splitFields_of_not_blank hblank] at hpiece
      rw [← intercalate_splitCommas 0 cs] at h
      obtain ⟨n, own, hown, hsub⟩ := exists_bracketPairs_of_mem (pieces_splitCommas 0 cs) h hpiece
      exact ⟨own, hown, fun hfree => hfree.of_moved hsub⟩

/-- Brackets of two kinds that cross. -/
def crossedList : List Char := "Map<(K>, V) a, W b".toList

/-- Brackets inside others. -/
def nestedList : List Char := "Map<K, [(V, W)]> a, (A, B) b".toList

theorem splitFields_cuts_outside_pairs_crossedList :
    (bracketPairs crossedList = some [⟨4, 10⟩, ⟨3, 6⟩] ∧
      ¬ CutBetween crossedList "Map<(K>".toList " V) a, W b".toList ∧
      CutBetween crossedList "Map<(K>, V) a".toList " W b".toList) ∧
    (bracketPairs nestedList = some [⟨20, 25⟩, ⟨3, 15⟩, ⟨7, 14⟩, ⟨8, 13⟩] ∧
      ∀ piece ∈ splitFields nestedList,
        ∃ own, bracketPairs piece = some own ∧ CrossingFree own) := by
  have hcrossed : bracketPairs crossedList = some [⟨4, 10⟩, ⟨3, 6⟩] := by decide
  have hnested : bracketPairs nestedList = some [⟨20, 25⟩, ⟨3, 15⟩, ⟨7, 14⟩, ⟨8, 13⟩] := by decide
  obtain ⟨-, -, hcut, -⟩ := splitFields_cuts_outside_pairs hcrossed
  obtain ⟨-, -, -, hpieces⟩ := splitFields_cuts_outside_pairs hnested
  refine ⟨⟨hcrossed, fun h => (hcut _ _ (by decide)).mp h (by decide),
    (hcut _ _ (by decide)).mpr (by decide)⟩, hnested, fun piece hpiece => ?_⟩
  obtain ⟨own, hown, hfree⟩ := hpieces piece hpiece
  exact ⟨own, hown, hfree (by decide)⟩

end AstForge
