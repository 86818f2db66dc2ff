import AstForge.Proofs.Table.RoundTrip

/-!
# Declarations — the parts of a field

A field is written by its type and its identifier, with blanks between them and perhaps around them.
`FieldText` is such a text, cut into its five parts.

* `FieldText.text_injective`: a text has one cut at most.  Its type may hold any characters, blanks
  and brackets included, but it ends before the last stretch of blanks inside the text.
* `Field.error_of_ofChars`: a text without a cut is reported as it stands, trimmed.
* `Field.parse_splits_uniquely`: so a field is read from exactly the texts with a cut, and it is the
  type and the identifier of the cut.
-/

namespace AstForge

open Text

/-! ### Texts with a cut -/

/-- A text that writes a field, cut into its parts: blanks, the type, blanks, the identifier and
blanks again.  Only the first and the last part may be empty. -/
@[ext]
structure FieldText where
  lead : List Char
  type : List Char
  gap : List Char
  identifier : List Char
  trail : List Char
  lead_blank : ∀ c ∈ lead, isBlank c
  type_ne_nil : type ≠ []
  type_trimmed : Trimmed type
  gap_blank : ∀ c ∈ gap, isBlank c
  gap_ne_nil : gap ≠ []
  identifier_form : HasIdentifierForm identifier
  trail_blank : ∀ c ∈ trail, isBlank c

namespace FieldText

/-- The part between the outer blanks. -/
def core (p : FieldText) : List Char :=
  p.type ++ p.gap ++ p.identifier

/-- The whole text. -/
def text (p : FieldText) : List Char :=
  p.lead ++ p.core ++ p.trail

/-- The field that the text writes. -/
def field (p : FieldText) : Field :=
  ⟨String.ofList p.type, String.ofList p.identifier⟩

variable (p : FieldText)

theorem isIdentifier_identifier : isIdentifier p.identifier :=
  isIdentifier_iff_form.mpr p.identifier_form

theorem readable_field : p.field.Readable where
  isIdentifier := by simpa [field] using p.isIdentifier_identifier
  type_ne_nil := by simpa [field] using p.type_ne_nil
  trimmed := by simpa [field] using p.type_trimmed

/-- A cut text writes its field. -/
theorem writtenAs_text : p.field.WrittenAs p.text :=
  ⟨p.lead, p.gap, p.trail, p.lead_blank, p.gap_blank, p.gap_ne_nil, p.trail_blank,
    by simp [text, core, field]⟩

/-- A cut text is read as its field, whatever the shape is called. -/
theorem ofChars_text (shape : String) : Field.ofChars shape p.text = .ok p.field :=
  Field.ofChars_eq_ok_iff.mpr ⟨p.readable_field, p.writtenAs_text⟩

theorem trimmed_core : Trimmed p.core := by
  simpa [field, core] using p.readable_field.trimmed_append p.gap

/-- Trimming a cut text leaves what it holds between its outer blanks. -/
theorem trim_text : trim p.text = p.core :=
  trim_eq_iff.mpr ⟨p.trimmed_core, p.lead, p.trail, p.lead_blank, p.trail_blank, rfl⟩

theorem core_ne_nil : p.core ≠ [] := by
  simp [core, p.type_ne_nil]

theorem trimStart_text : trimStart p.text = p.core ++ p.trail := by
  rw [text, List.append_assoc, trimStart_blanks_append p.lead_blank]
  refine trimStart_eq_self ?_
  rw [List.head?_append_of_ne_nil _ p.core_ne_nil]
  exact p.trimmed_core.head

/-- **A text has one cut at most.**  The type and the identifier are what reading answers, and the
blanks are what trimming takes away around them. -/
theorem text_injective : Function.Injective text := by
  intro p q h
  have hfield : p.field = q.field := by
    have hread := p.ofChars_text ""
    rw [h, q.ofChars_text] at hread
    exact (Except.ok.inj hread).symm
  have htype : p.type = q.type := String.ofList_injective (congrArg Field.type hfield)
  have hidentifier : p.identifier = q.identifier :=
    String.ofList_injective (congrArg Field.identifier hfield)
  have hcore : p.core = q.core := by rw [← p.trim_text, h, q.trim_text]
  have hgap : p.gap = q.gap := by
    rw [core, core, htype, hidentifier] at hcore
    exact List.append_cancel_left (List.append_cancel_right hcore)
  have hrest : p.core ++ p.trail = q.core ++ q.trail := by
    rw [← p.trimStart_text, h, q.trimStart_text]
  have htrail : p.trail = q.trail := by
    rw [hcore] at hrest
    exact List.append_cancel_left hrest
  have hlead : p.lead = q.lead := by
    rw [text, text, hcore, htrail] at h
    exact List.append_cancel_right (List.append_cancel_right h)
  exact FieldText.ext hlead htype hgap hidentifier htrail

end FieldText

/-! ### Reading a field -/

/-- Every text that writes a field has a cut. -/
theorem exists_fieldText {f : Field} {cs : List Char} (hf : f.Readable) (h : f.WrittenAs cs) :
    ∃ p : FieldText, p.text = cs ∧ p.field = f := by
  obtain ⟨w, v, w', hw, hv, hne, hw', rfl⟩ := h
  have hform := isIdentifier_iff_form.mp hf.isIdentifier
  exact ⟨⟨w, f.type.toList, v, f.identifier.toList, w', hw, hf.type_ne_nil, hf.trimmed, hv, hne,
    hform, hw'⟩, rfl, by simp [FieldText.field]⟩

/-- **A text is a field** exactly when it can be cut. -/
theorem Field.ofChars_eq_ok_iff_cut {shape : String} {cs : List Char} {f : Field} :
    Field.ofChars shape cs = .ok f ↔ ∃ p : FieldText, p.text = cs ∧ p.field = f := by
  constructor
  · intro h
    obtain ⟨hf, hw⟩ := Field.ofChars_eq_ok_iff.mp h
    exact exists_fieldText hf hw
  · rintro ⟨p, rfl, rfl⟩
    exact p.ofChars_text shape

/-- The one way in which reading a field fails. -/
theorem Field.error_of_ofChars {shape : String} {cs : List Char} {e : ReadError}
    (h : Field.ofChars shape cs = .error e) :
    e = .malformedField shape (String.ofList (trim cs)) := by
  simp only [Field.ofChars] at h
  split at h
  · exact (Except.error.inj h).symm
  · split at h
    · exact (Except.error.inj h).symm
    · cases h

/-- A text that is no field is blamed as it stands between its outer blanks. -/
theorem Field.ofChars_eq_error {shape : String} {cs : List Char}
    (h : ∀ f, Field.ofChars shape cs ≠ .ok f) :
    Field.ofChars shape cs = .error (.malformedField shape (String.ofList (trim cs))) := by
  cases hread : Field.ofChars shape cs with
  | ok f => exact absurd hread (h f)
  | error e => rw [Field.error_of_ofChars hread]

/-- **Reading a field splits its text in the one possible way.**  A field is read from exactly the
texts with a cut, of which each has one, and is read again from its printed form.  Every other text
is refused with the name of the shape and the trimmed text. -/
theorem Field.parse_splits_uniquely (shape text : String) :
    (∀ f, Field.parse shape text = .ok f ↔
      ∃ p : FieldText, p.text = text.toList ∧ f = p.field) ∧
    (∀ p q : FieldText, p.text = text.toList → q.text = text.toList → p = q) ∧
    (∀ f, Field.parse shape text = .ok f → ∀ owner, Field.parse owner f.render = .ok f) ∧
    ((∀ p : FieldText, p.text ≠ text.toList) →
      Field.parse shape text =
        .error (.malformedField shape (String.ofList (trim text.toList)))) := by
  simp only [Field.parse]
  refine ⟨fun f => ?_, fun p q hp hq => ?_, fun f h owner => ?_, fun h => ?_⟩
  · rw [Field.ofChars_eq_ok_iff_cut]
    exact exists_congr fun p => and_congr_right fun _ => eq_comm
  · exact FieldText.text_injective (hp.trans hq.symm)
  · obtain ⟨hf, -⟩ := Field.ofChars_eq_ok_iff.mp h
    exact Field.ofChars_eq_ok_iff.mpr ⟨hf, f.writtenAs_render⟩
  · refine Field.ofChars_eq_error fun f hread => ?_
    obtain ⟨p, hp, -⟩ := Field.ofChars_eq_ok_iff_cut.mp hread
    exact h p hp

theorem parse_splits_uniquely_paddedField :
    Field.parse "Call" " Map<K, V>\t entries " = .ok ⟨"Map<K, V>", "entries"⟩ ∧
      Field.parse "Set" "Map<K, V> entries" = .ok ⟨"Map<K, V>", "entries"⟩ ∧
      Field.parse "Call" " Expr 2nd" = .error (.malformedField "Call" "Expr 2nd") := by
  have hread : Field.parse "Call" " Map<K, V>\t entries " = .ok ⟨"Map<K, V>", "entries"⟩ := by
    decide
  refine ⟨hread, (Field.parse_splits_uniquely _ _).2.2.1 _ hread "Set", ?_⟩
  obtain ⟨hcut, -, -, herror⟩ := Field.parse_splits_uniquely "Call" " Expr 2nd"
  refine herror fun p hp => ?_
  have hrefused : ∀ f, Field.parse "Call" " Expr 2nd" ≠ .ok f := by
    intro f hf
    cases hf
  exact hrefused p.field ((hcut p.field).mpr ⟨p, hp, rfl⟩)

end AstForge
