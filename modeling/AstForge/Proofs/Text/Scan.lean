import AstForge.Proofs.Text.Lines
import AstForge.Proofs.Text.Word

/-!
# Text — scanning a text for names

`scan` reads names off a text by a pattern.  The pattern gives, for each name, what stands before
the name and the character that ends it; a text is not read if one of the former is missing.

* `scan_append`: a text that is put together as the pattern says is read.
* `isPrefixOf?_eq_none_of_mark`: a text does not start with a given one if their first characters
  outside a word differ.
* `isSome_scan_append`: whether a text is read does not change when something follows it.
-/

namespace AstForge.Text

/-- Reads the names that a text has by a pattern. -/
def scan : List (String × Char) → List Char → Option (List String)
  | [], _ => some []
  | (start, stop) :: pattern, cs =>
    (start.toList.isPrefixOf? cs).bind fun rest =>
      (scan pattern (rest.dropWhile (· != stop)).tail).map
        (String.ofList (rest.takeWhile (· != stop)) :: ·)

/-- A pattern is scanned start by start, with a name up to each stop. -/
theorem scan_append {start name : String} {stop : Char} (h : stop ∉ name.toList)
    (pattern : List (String × Char)) (cs : List Char) :
    scan ((start, stop) :: pattern) (start.toList ++ (name.toList ++ stop :: cs)) =
      (scan pattern cs).map (name :: ·) := by
  have hname : ∀ c ∈ name.toList, (c != stop) = true := fun c hc => by
    simpa using fun he : c = stop => h (he ▸ hc)
  rw [scan, List.isPrefixOf?_eq_some_iff_append_eq.mpr rfl, Option.bind_some,
    List.takeWhile_append_of_pos hname, List.dropWhile_append_of_pos hname]
  simp

/-- A text that does not start as the pattern does is not scanned. -/
theorem scan_eq_none {start : String} {cs : List Char}
    (h : start.toList.isPrefixOf? cs = none) (stop : Char) (pattern : List (String × Char)) :
    scan ((start, stop) :: pattern) cs = none := by
  rw [scan, h, Option.bind_none]

/-- A text that is scanned is scanned with more behind it. -/
theorem isSome_scan_append {pattern : List (String × Char)} {cs : List Char}
    (h : (scan pattern cs).isSome) (ds : List Char) : (scan pattern (cs ++ ds)).isSome := by
  induction pattern generalizing cs ds with
  | nil => rfl
  | cons p pattern ih =>
      obtain ⟨start, stop⟩ := p
      rw [scan] at h ⊢
      cases hs : start.toList.isPrefixOf? cs with
      | none => simp [hs] at h
      | some rest =>
          obtain rfl := List.append_eq_of_isPrefixOf?_eq_some hs
          rw [List.append_assoc, List.isPrefixOf?_eq_some_iff_append_eq.mpr rfl]
          simp only [hs, Option.bind_some, Option.isSome_map] at h ⊢
          -- Either the name ends in `rest`, or nothing of `rest` is left for the other names.
          rw [List.dropWhile_append]
          split
          · next hempty =>
              rw [List.isEmpty_iff.mp hempty] at h
              exact ih h _
          · next hne =>
              rw [List.tail_append_of_ne_nil (by simpa using hne)]
              exact ih h ds

theorem isPrefixOf?_dropReturn_eq_none {start cs : List Char} (h : start.isPrefixOf? cs = none) :
    start.isPrefixOf? (dropReturn cs) = none := by
  obtain ⟨r, hr⟩ := dropReturn_isPrefix cs
  cases hs : start.isPrefixOf? (dropReturn cs) with
  | none => rfl
  | some rest =>
      rw [← hr, ← List.append_eq_of_isPrefixOf?_eq_some hs, List.append_assoc,
        List.isPrefixOf?_eq_some_iff_append_eq.mpr rfl] at h
      cases h

/-- A text that is not scanned is not scanned without its final carriage return. -/
theorem scan_dropReturn_eq_none {pattern : List (String × Char)} {cs : List Char}
    (h : scan pattern cs = none) : scan pattern (dropReturn cs) = none := by
  obtain ⟨r, hr⟩ := dropReturn_isPrefix cs
  cases hs : scan pattern (dropReturn cs) with
  | none => rfl
  | some names =>
      have hsome := isSome_scan_append (by rw [hs]; rfl) r
      rw [hr, h] at hsome
      cases hsome

/-- Reads the name between `start`, at the start of a text, and the next `stop`. -/
def scanName (start : String) (stop : Char) (cs : List Char) : Option String :=
  (scan [(start, stop)] cs).bind List.head?

theorem scanName_append {start name : String} {stop : Char} (h : stop ∉ name.toList)
    (cs : List Char) :
    scanName start stop (start.toList ++ (name.toList ++ stop :: cs)) = some name := by
  rw [scanName, scan_append h]
  rfl

/-! ### The first character outside a word -/

/-- The character that ends the word at the start of a text. -/
def mark (cs : List Char) : Option Char :=
  cs.find? (!isIdentifierRest ·)

/-- The first mark of a text is that after its first word. -/
theorem mark_append {w : List Char} (h : IsWord w) (cs : List Char) :
    mark (w ++ cs) = mark cs := by
  rw [mark, List.find?_append, List.find?_eq_none.mpr fun c hc => by simp [h c hc]]
  rfl

theorem mark_cons (c : Char) (cs : List Char) :
    mark (c :: cs) = if isIdentifierRest c then mark cs else some c := by
  rw [mark, List.find?_cons]
  cases isIdentifierRest c <;> rfl

theorem mark_of_start {start cs : List Char} {c : Char} (hs : mark start = some c)
    (h : start <+: cs) : mark cs = some c := by
  obtain ⟨rest, rfl⟩ := h
  rw [mark] at hs
  rw [mark, List.find?_append, hs]
  rfl

/-- Texts with different marks do not start alike. -/
theorem isPrefixOf?_eq_none_of_mark {start cs : List Char} {c : Char}
    (hs : mark start = some c) (hc : mark cs ≠ some c) : start.isPrefixOf? cs = none := by
  refine Option.eq_none_iff_forall_ne_some.mpr fun rest h => hc (mark_of_start hs ?_)
  exact ⟨rest, List.append_eq_of_isPrefixOf?_eq_some h⟩

/-- Of two texts at the start of one text, one starts with the other. -/
theorem isPrefixOf?_eq_none_of_start {start p cs : List Char} (hp : p <+: cs)
    (h : ¬ start <+: p ∧ ¬ p <+: start) : start.isPrefixOf? cs = none := by
  refine Option.eq_none_iff_forall_ne_some.mpr fun rest hs => ?_
  have hstart : start <+: cs := ⟨rest, List.append_eq_of_isPrefixOf?_eq_some hs⟩
  exact (List.prefix_or_prefix_of_prefix hstart hp).elim h.1 h.2

end AstForge.Text
