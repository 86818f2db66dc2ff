import AstForge.Proofs.Declaration.Pieces
import AstForge.Proofs.Except
import AstForge.Proofs.Text.Cut

/-!
# Declarations — what is read, and from which texts

A field, a field list and a shape are each read from exactly the texts that write them.

* `Field.ofChars_eq_ok_iff`: a field is written by its type and its identifier, with blanks between
  them and perhaps around them.
* `readFields_eq_ok_iff`: a field list is written by its fields joined by commas.  The types have
  to be *well formed*: no comma outside brackets, and brackets left open in the last type only.
* `Shape.ofChars_eq_ok_iff`: a shape is written by its name, a colon and its field list.
-/

namespace AstForge

open Text

/-! ### Fields -/

/-- `cs` writes `f`: its type, blanks, its identifier, and perhaps blanks around. -/
def Field.WrittenAs (f : Field) (cs : List Char) : Prop :=
  ∃ w v w', (∀ c ∈ w, isBlank c) ∧ (∀ c ∈ v, isBlank c) ∧ v ≠ [] ∧ (∀ c ∈ w', isBlank c) ∧
    cs = w ++ (f.type.toList ++ v ++ f.identifier.toList) ++ w'

/-- The type and the identifier of `f` have the form that reading can give them. -/
structure Field.Readable (f : Field) : Prop where
  isIdentifier : isIdentifier f.identifier.toList
  type_ne_nil : f.type.toList ≠ []
  trimmed : Trimmed f.type.toList

theorem Field.Readable.isWord {f : Field} (h : f.Readable) : IsWord f.identifier.toList :=
  isWord_of_isIdentifier h.isIdentifier

/-- No blank stands at the ends of a field, whatever stands between its type and its identifier. -/
theorem Field.Readable.trimmed_append {f : Field} (h : f.Readable) (v : List Char) :
    Trimmed (f.type.toList ++ v ++ f.identifier.toList) := by
  refine ⟨fun c hc => h.trimmed.head c ?_, fun c hc => h.isWord.trimmed.last c ?_⟩
  · rw [List.append_assoc, List.head?_append_of_ne_nil _ h.type_ne_nil] at hc
    exact hc
  · rwa [List.getLast?_append_of_ne_nil _ (ne_nil_of_isIdentifier h.isIdentifier)] at hc

/-- A field that is read can be read, and is written by the text that it is read from. -/
theorem Field.written_of_ofChars {shape : String} {cs : List Char} {f : Field}
    (h : Field.ofChars shape cs = .ok f) : f.Readable ∧ f.WrittenAs cs := by
  simp only [Field.ofChars] at h
  split at h
  · cases h
  · next before identifier hs =>
      split at h
      · cases h
      · next hok =>
          obtain rfl := Except.ok.inj h
          simp only [Bool.or_eq_true, List.isEmpty_iff, Bool.not_eq_true', not_or,
            Bool.not_eq_false] at hok
          obtain ⟨c, hc, htrim, -⟩ := splitLast_eq_some_iff.mp hs
          obtain ⟨ht, w, w', hw, hw', hcs⟩ := trim_eq_iff.mp htrim
          obtain ⟨v, hv, hbefore, hlast⟩ := trimEnd_spec before
          have hhead : ∀ d ∈ before.head?, isBlank d = false := by
            intro d hd
            refine ht.head d ?_
            rw [List.head?_append, Option.mem_def.mp hd]
            rfl
          have hv' : ∀ d ∈ v ++ [c], isBlank d := by
            intro d hd
            rcases List.mem_append.mp hd with hd | hd
            · exact hv d hd
            · rwa [List.mem_singleton.mp hd]
          refine ⟨⟨by simpa using hok.2, by simpa using hok.1, ?_⟩,
            w, v ++ [c], w', hw, hv', by simp, hw', ?_⟩
          · simpa using ⟨head_trimEnd hhead, hlast⟩
          · rw [hcs, String.toList_ofList, String.toList_ofList,
              ← List.append_assoc (trimEnd before), ← hbefore, List.append_assoc before,
              List.singleton_append]

/-- A text that writes a readable field is read as this field. -/
theorem Field.ofChars_of_written {shape : String} {cs : List Char} {f : Field} (hf : f.Readable)
    (h : f.WrittenAs cs) : Field.ofChars shape cs = .ok f := by
  obtain ⟨w, v, w', hw, hv, hvne, hw', rfl⟩ := h
  have htrim := trim_eq_iff.mpr ⟨hf.trimmed_append v, w, w', hw, hw', rfl⟩
  -- The last blank of the trimmed text is the last of the blanks in the middle.
  obtain ⟨v, c, rfl⟩ := (List.eq_nil_or_concat' v).resolve_left hvne
  have hsplit : splitLast isBlank (f.type.toList ++ (v ++ [c]) ++ f.identifier.toList) =
      some (f.type.toList ++ v, f.identifier.toList) := by
    rw [← List.append_assoc, List.append_assoc (f.type.toList ++ v), List.singleton_append]
    exact splitLast_append_cons hf.isWord.isBlank (hv c (by simp)) _
  have htype : trimEnd (f.type.toList ++ v) = f.type.toList := by
    rw [trimEnd_append_blanks (fun d hd => hv d (by simp [hd])), trimEnd_eq_self hf.trimmed.last]
  simp only [Field.ofChars, htrim, hsplit, htype, hf.isIdentifier, String.ofList_toList]
  simp [hf.type_ne_nil]

/-- **Fields.**  A field is read from exactly the texts that write it. -/
theorem Field.ofChars_eq_ok_iff {shape : String} {cs : List Char} {f : Field} :
    Field.ofChars shape cs = .ok f ↔ f.Readable ∧ f.WrittenAs cs :=
  ⟨Field.written_of_ofChars, fun ⟨hf, h⟩ => Field.ofChars_of_written hf h⟩

/-- A text that writes a field has the brackets and the commas of its type. -/
theorem Field.WrittenAs.delimiters {f : Field} {cs : List Char} (h : f.WrittenAs cs)
    (hid : IsWord f.identifier.toList) (depth : Nat) :
    depthAfter depth cs = depthAfter depth f.type.toList ∧
      (Sealed depth cs ↔ Sealed depth f.type.toList) := by
  obtain ⟨w, v, w', hw, hv, -, hw', rfl⟩ := h
  have hw := fun c hc => isDelimiter_of_isBlank (hw c hc)
  have hv := fun c hc => isDelimiter_of_isBlank (hv c hc)
  have hw' := fun c hc => isDelimiter_of_isBlank (hw' c hc)
  have hid := fun c hc => isDelimiter_of_isIdentifierRest (hid c hc)
  simp [depthAfter_append, sealed_append, depthAfter_of_not_isDelimiter hw,
    depthAfter_of_not_isDelimiter hv, depthAfter_of_not_isDelimiter hid,
    depthAfter_of_not_isDelimiter hw', sealed_of_not_isDelimiter hw, sealed_of_not_isDelimiter hv,
    sealed_of_not_isDelimiter hid, sealed_of_not_isDelimiter hw']

/-! ### Field lists -/

/-- The fields can stand together in one declaration: no type holds a comma outside brackets, and
only the last one may end inside brackets. -/
structure WellFormedFields (fs : List Field) : Prop where
  readable : ∀ f ∈ fs, f.Readable
  commas : ∀ f ∈ fs, Sealed 0 f.type.toList
  closed : ∀ f ∈ fs.dropLast, depthAfter 0 f.type.toList = 0

/-- `cs` writes the fields `fs`: each of them, with commas between; no fields are written by
blanks. -/
def FieldsWrittenAs (fs : List Field) (cs : List Char) : Prop :=
  (fs = [] ∧ ∀ c ∈ cs, isBlank c) ∨
    (fs ≠ [] ∧ ∃ ps, List.Forall₂ Field.WrittenAs fs ps ∧ cs = [','].intercalate ps)

/-- The texts of fields are pieces of a field list when the fields can stand together. -/
theorem pieces_iff_of_written {fs : List Field} {ps : List (List Char)} (hne : fs ≠ [])
    (h : List.Forall₂ Field.WrittenAs fs ps) (hr : ∀ f ∈ fs, f.Readable) :
    Pieces 0 ps ↔ (∀ f ∈ fs, Sealed 0 f.type.toList) ∧
      ∀ f ∈ fs.dropLast, depthAfter 0 f.type.toList = 0 := by
  induction h with
  | nil => exact absurd rfl hne
  | @cons f p fs ps hf hrest ih =>
      obtain ⟨hdepth, hsealed⟩ := hf.delimiters (hr f List.mem_cons_self).isWord 0
      cases hrest with
      | nil => simp [Pieces, hsealed]
      | @cons g q fs ps hg hrest =>
          have ih := ih (by simp) fun x hx => hr x (List.mem_cons_of_mem _ hx)
          rw [Pieces, ih, hsealed, hdepth, List.dropLast_cons_cons]
          constructor
          · rintro ⟨hs, hd, hss, hds⟩
            exact ⟨List.forall_mem_cons.mpr ⟨hs, hss⟩, List.forall_mem_cons.mpr ⟨hd, hds⟩⟩
          · rintro ⟨hss, hds⟩
            obtain ⟨hs, hss⟩ := List.forall_mem_cons.mp hss
            obtain ⟨hd, hds⟩ := List.forall_mem_cons.mp hds
            exact ⟨hs, hd, hss, hds⟩

/-- A text that writes a field is not blank. -/
theorem Field.WrittenAs.not_blank {f : Field} {cs : List Char} (h : f.WrittenAs cs)
    (hf : f.Readable) : ∃ c ∈ cs, isBlank c = false := by
  obtain ⟨w, v, w', -, -, -, -, rfl⟩ := h
  obtain ⟨c, hc⟩ := List.exists_mem_of_ne_nil _ (ne_nil_of_isIdentifier hf.isIdentifier)
  exact ⟨c, by simp [hc], hf.isWord.isBlank c hc⟩

/-- Texts are read as fields when they write these fields and each can be read. -/
theorem forall₂_ofChars_iff {shape : String} {ps : List (List Char)} {fs : List Field} :
    List.Forall₂ (fun p f => Field.ofChars shape p = .ok f) ps fs ↔
      (∀ f ∈ fs, f.Readable) ∧ List.Forall₂ Field.WrittenAs fs ps := by
  simp only [Field.ofChars_eq_ok_iff]
  rw [← List.forall₂_and_left]
  exact ⟨fun h => h.flip, fun h => h.flip⟩

/-- A blank list holds no field. -/
theorem splitFields_of_blank {cs : List Char} (h : ∀ c ∈ cs, isBlank c) : splitFields cs = [] :=
  if_pos (List.isEmpty_iff.mpr (trim_eq_nil_iff.mpr h))

/-- Any other list is cut at its commas. -/
theorem splitFields_of_not_blank {cs : List Char} (h : ¬ ∀ c ∈ cs, isBlank c) :
    splitFields cs = splitCommas 0 cs :=
  if_neg fun hempty => h (trim_eq_nil_iff.mp (List.isEmpty_iff.mp hempty))

/-- **Field lists.**  Fields are read from exactly the texts that write them, if they can stand
together. -/
theorem readFields_eq_ok_iff {shape : String} {cs : List Char} {fs : List Field} :
    (splitFields cs).mapM (Field.ofChars shape) = .ok fs ↔
      WellFormedFields fs ∧ FieldsWrittenAs fs cs := by
  rw [mapM_eq_ok_iff]
  constructor
  · intro h
    by_cases hblank : ∀ c ∈ cs, isBlank c
    · rw [splitFields_of_blank hblank] at h
      obtain rfl := List.forall₂_nil_left_iff.mp h
      exact ⟨⟨by simp, by simp, by simp⟩, .inl ⟨rfl, hblank⟩⟩
    · rw [splitFields_of_not_blank hblank] at h
      have hne : fs ≠ [] := by
        rintro rfl
        exact splitCommas_ne_nil 0 cs (List.forall₂_nil_right_iff.mp h)
      obtain ⟨hr, hw⟩ := forall₂_ofChars_iff.mp h
      obtain ⟨hs, hd⟩ := (pieces_iff_of_written hne hw hr).mp (pieces_splitCommas 0 cs)
      exact ⟨⟨hr, hs, hd⟩, .inr ⟨hne, _, hw, (intercalate_splitCommas 0 cs).symm⟩⟩
  · rintro ⟨⟨hr, hs, hd⟩, ⟨rfl, hblank⟩ | ⟨hne, ps, hw, rfl⟩⟩
    · rw [splitFields_of_blank hblank]
      exact .nil
    · have hp := (pieces_iff_of_written hne hw hr).mpr ⟨hs, hd⟩
      -- A list with a field in it is not blank, so it is cut into its pieces.
      have hnb : ¬ ∀ c ∈ [','].intercalate ps, isBlank c := by
        intro hall
        cases hw with
        | nil => exact hne rfl
        | @cons f p fs ps hf _ =>
            obtain ⟨c, hc, hcb⟩ := hf.not_blank (hr f List.mem_cons_self)
            rw [hall c (mem_intercalate_of_mem List.mem_cons_self hc)] at hcb
            cases hcb
      rw [splitFields_of_not_blank hnb, splitCommas_intercalate hp]
      exact forall₂_ofChars_iff.mpr ⟨hr, hw⟩

/-! ### Shapes -/

/-- A text without a colon is no shape. -/
theorem Shape.ofChars_of_noColon {cs : List Char} (h : ':' ∉ cs) :
    Shape.ofChars cs = .error (.malformedShape (String.ofList (trim cs))) := by
  rw [Shape.ofChars, splitFirst_eq_none_iff.mpr (beq_eq_false_of_notMem h)]

/-- The first colon ends the name, and the fields are read from what follows. -/
theorem Shape.ofChars_append_colon {before : List Char} (h : ':' ∉ before) (rest : List Char) :
    Shape.ofChars (before ++ ':' :: rest) = (do
      let fields ← (splitFields rest).mapM (Field.ofChars (String.ofList (trim before)))
      return ⟨String.ofList (trim before), fields⟩) := by
  rw [Shape.ofChars, splitFirst_append_cons (beq_eq_false_of_notMem h) (by decide)]

/-- **Shapes.**  A shape is read from exactly the texts that write its name, a colon and its
fields; the colon is the first one. -/
theorem Shape.ofChars_eq_ok_iff {cs : List Char} {s : Shape} :
    Shape.ofChars cs = .ok s ↔
      WellFormedFields s.fields ∧ ∃ before list, cs = before ++ ':' :: list ∧ ':' ∉ before ∧
        trim before = s.name.toList ∧ FieldsWrittenAs s.fields list := by
  constructor
  · intro h
    by_cases hcolon : ':' ∈ cs
    · obtain ⟨before, list, rfl, hbefore⟩ := List.eq_append_cons_of_mem hcolon
      rw [Shape.ofChars_append_colon hbefore] at h
      obtain ⟨fields, hfields, h⟩ := bind_eq_ok_iff.mp h
      obtain rfl := Except.ok.inj h
      obtain ⟨hwf, hw⟩ := readFields_eq_ok_iff.mp hfields
      exact ⟨hwf, before, list, rfl, hbefore, by simp, hw⟩
    · rw [Shape.ofChars_of_noColon hcolon] at h
      cases h
  · rintro ⟨hwf, before, list, rfl, hcolon, hname, hw⟩
    rw [Shape.ofChars_append_colon hcolon]
    refine bind_eq_ok_iff.mpr ⟨s.fields, readFields_eq_ok_iff.mpr ⟨hwf, hw⟩, ?_⟩
    rw [hname, String.ofList_toList]
    rfl

/-- Reading invents no character: those of a type stand in the text that was read. -/
theorem FieldsWrittenAs.mem_of_mem_type {fs : List Field} {cs : List Char}
    (h : FieldsWrittenAs fs cs) {f : Field} (hf : f ∈ fs) {c : Char} (hc : c ∈ f.type.toList) :
    c ∈ cs := by
  rcases h with ⟨rfl, -⟩ | ⟨-, ps, hw, rfl⟩
  · cases hf
  · obtain ⟨p, hp, w, v, w', -, -, -, -, rfl⟩ := exists_of_mem_forall₂ hw.flip hf
    exact mem_intercalate_of_mem hp (by simp [hc])

end AstForge
