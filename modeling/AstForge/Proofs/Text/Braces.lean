import AstForge.Proofs.Text.Word

/-!
# Text — braces

`braceDepth` counts the braces that are open, and has no value once a brace closes that was not
opened.

* `Balanced.braceDepth_eq`: a balanced text leaves every depth as it was.
* `Balanced.exists_of_prefix`: and nowhere inside does it go below the depth at which it starts.
* `Braced.of_balanced`: a block with a balanced body.
-/

namespace AstForge.Text

/-- The number of open braces after `c`; there is none if `c` closes a brace that is not open. -/
def braceStep (depth : Nat) (c : Char) : Option Nat :=
  if c = '\x7b' then some (depth + 1)
  else if c = '\x7d' then if depth = 0 then none else some (depth - 1)
  else some depth

/-- The number of open braces after `cs`, starting inside `depth` of them. -/
def braceDepth (depth : Nat) (cs : List Char) : Option Nat :=
  cs.foldlM braceStep depth

/-- Every brace of `cs` closes, and none closes that is not open. -/
def Balanced (cs : List Char) : Prop :=
  braceDepth 0 cs = some 0

instance (cs : List Char) : Decidable (Balanced cs) :=
  inferInstanceAs (Decidable (_ = _))

/-- `cs` holds no brace. -/
def NoBraces (cs : List Char) : Prop :=
  '\x7b' ∉ cs ∧ '\x7d' ∉ cs

instance (cs : List Char) : Decidable (NoBraces cs) :=
  inferInstanceAs (Decidable (_ ∧ _))

/-- `cs` is one block: a text without braces that ends with `head`, an opening brace, and a closing
brace that ends the last line.  Between the two some brace is open at every place, and after them
none is. -/
def Braced (head cs : List Char) : Prop :=
  ∃ lead inner, cs = lead ++ head ++ '\x7b' :: (inner ++ ['\x7d', '\n']) ∧
    NoBraces (lead ++ head) ∧
    (∀ p, p <+: inner → ∃ depth, braceDepth 0 (lead ++ head ++ '\x7b' :: p) = some (depth + 1)) ∧
    Balanced cs

/-! ### Texts without braces -/

@[simp] theorem noBraces_nil : NoBraces [] := by
  simp [NoBraces]

@[simp] theorem noBraces_cons {c : Char} {cs : List Char} :
    NoBraces (c :: cs) ↔ ('\x7b' ≠ c ∧ '\x7d' ≠ c) ∧ NoBraces cs := by
  simp only [NoBraces, List.mem_cons, not_or]
  tauto

@[simp] theorem noBraces_append {cs ds : List Char} :
    NoBraces (cs ++ ds) ↔ NoBraces cs ∧ NoBraces ds := by
  simp only [NoBraces, List.mem_append, not_or]
  tauto

theorem NoBraces.of_subset {cs ds : List Char} (h : NoBraces ds) (hsub : cs ⊆ ds) : NoBraces cs :=
  ⟨fun hm => h.1 (hsub hm), fun hm => h.2 (hsub hm)⟩

theorem IsWord.noBraces {cs : List Char} (h : IsWord cs) : NoBraces cs :=
  ⟨h.notMem (by decide), h.notMem (by decide)⟩

/-- Texts without braces have none when they are joined by commas. -/
theorem noBraces_intercalate {ps : List String} (h : ∀ p ∈ ps, NoBraces p.toList) :
    NoBraces (", ".intercalate ps).toList :=
  ⟨notMem_intercalate (by decide) fun p hp => (h p hp).1,
    notMem_intercalate (by decide) fun p hp => (h p hp).2⟩

/-! ### Depths -/

theorem braceDepth_cons (depth : Nat) (c : Char) (cs : List Char) :
    braceDepth depth (c :: cs) = (braceStep depth c).bind (braceDepth · cs) :=
  List.foldlM_cons

theorem braceDepth_append (depth : Nat) (cs ds : List Char) :
    braceDepth depth (cs ++ ds) = (braceDepth depth cs).bind (braceDepth · ds) :=
  List.foldlM_append

/-- A text without braces leaves every depth as it was. -/
theorem NoBraces.braceDepth_eq {cs : List Char} (h : NoBraces cs) (depth : Nat) :
    braceDepth depth cs = some depth := by
  induction cs with
  | nil => rfl
  | cons c cs ih =>
      obtain ⟨⟨hopen, hclose⟩, h⟩ := noBraces_cons.mp h
      rw [braceDepth_cons, braceStep, if_neg hopen.symm, if_neg hclose.symm]
      exact ih h

/-- A brace does at every depth what it does further out. -/
theorem braceStep_add {depth depth' : Nat} {c : Char} (h : braceStep depth c = some depth')
    (n : Nat) : braceStep (n + depth) c = some (n + depth') := by
  grind [braceStep]

/-- A text changes every greater depth in the same way. -/
theorem braceDepth_add {depth depth' : Nat} {cs : List Char} (h : braceDepth depth cs = some depth')
    (n : Nat) : braceDepth (n + depth) cs = some (n + depth') := by
  induction cs generalizing depth with
  | nil => exact congrArg (some <| n + ·) (Option.some.inj h)
  | cons c cs ih =>
      rw [braceDepth_cons, Option.bind_eq_some_iff] at h
      obtain ⟨k, hk, h⟩ := h
      rw [braceDepth_cons, braceStep_add hk]
      exact ih h

/-! ### Balanced texts -/

namespace Balanced

variable {cs ds : List Char}

theorem of_noBraces (h : NoBraces cs) : Balanced cs :=
  h.braceDepth_eq 0

/-- A balanced text leaves every depth as it was. -/
theorem braceDepth_eq (h : Balanced cs) (depth : Nat) : braceDepth depth cs = some depth :=
  braceDepth_add h depth

/-- Balanced texts, one after the other, are balanced. -/
theorem append (h : Balanced cs) (h' : Balanced ds) : Balanced (cs ++ ds) := by
  rw [Balanced, braceDepth_append, h.braceDepth_eq]
  exact h'

/-- Inside a balanced text the depth does not fall below the depth at its start. -/
theorem exists_of_prefix (h : Balanced cs) {p : List Char} (hp : p <+: cs) (depth : Nat) :
    ∃ k, braceDepth depth p = some (depth + k) := by
  obtain ⟨rest, rfl⟩ := hp
  rw [Balanced, braceDepth_append, Option.bind_eq_some_iff] at h
  obtain ⟨k, hk, -⟩ := h
  exact ⟨k, braceDepth_add hk depth⟩

/-- A balanced text in braces. -/
theorem block {head : List Char} (hhead : NoBraces head) (h : Balanced cs) (hds : NoBraces ds) :
    Balanced (head ++ '\x7b' :: (cs ++ '\x7d' :: ds)) := by
  rw [Balanced, braceDepth_append, hhead.braceDepth_eq]
  change braceDepth 1 (cs ++ '\x7d' :: ds) = some 0
  rw [braceDepth_append, h.braceDepth_eq]
  exact hds.braceDepth_eq 0

/-- Balanced texts joined by a balanced text are balanced. -/
theorem intercalate {ps : List (List Char)} (h : ∀ p ∈ ps, Balanced p) (hcs : Balanced cs) :
    Balanced (cs.intercalate ps) := by
  induction ps with
  | nil => exact of_noBraces noBraces_nil
  | cons p ps ih =>
      obtain ⟨hp, hps⟩ := List.forall_mem_cons.mp h
      cases ps with
      | nil => simpa using hp
      | cons q ps =>
          rw [List.intercalate_cons_cons]
          exact (hp.append hcs).append (ih hps)

end Balanced

/-- **A block.**  Some brace is open from its first brace up to its last. -/
theorem Braced.of_balanced {lead head inner : List Char} (hlead : NoBraces lead)
    (hhead : NoBraces head) (hinner : Balanced inner) :
    Braced head (lead ++ head ++ '\x7b' :: (inner ++ ['\x7d', '\n'])) := by
  have hfront : NoBraces (lead ++ head) := noBraces_append.mpr ⟨hlead, hhead⟩
  refine ⟨lead, inner, rfl, hfront, fun p hp => ?_, hinner.block hfront (by decide)⟩
  obtain ⟨k, hk⟩ := hinner.exists_of_prefix hp 1
  refine ⟨k, ?_⟩
  rw [braceDepth_append, hfront.braceDepth_eq, Nat.add_comm]
  exact hk

theorem Braced.balanced {head cs : List Char} (h : Braced head cs) : Balanced cs := by
  obtain ⟨-, -, -, -, -, hcs⟩ := h
  exact hcs

end AstForge.Text
