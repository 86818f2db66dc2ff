import Mathlib.Data.List.Nodup
import Mathlib.Data.List.Perm.Subperm
import AstForge.Files.FileSystem
import AstForge.Proofs.Except

/-!
# Files — a draft leaves no trace

A file is written as a draft beside its place, which is then moved there or removed again.  While
the draft stands, the file system holds one file more; the draft has a name that no entry has and
that no step of the path is (`freshName_notMem`), so the path leads where it led before.

* `write_eq`: writing to a path puts the text at one place, or it fails and the file system is
  exactly what it was.
-/

namespace AstForge.FileSystem

/-! ### Entries -/

/-- An entry that was put is found at its place, and nothing else is changed. -/
theorem lookup_put (place : Location) (e : Entry) (es : List (Location × Entry))
    (other : Location) :
    (put place e es).lookup other = if other = place then some e else es.lookup other := by
  induction es with
  | nil =>
      rw [put, List.lookup_cons, List.lookup_nil]
      by_cases h : other = place
      · simp [h]
      · simp [h, beq_eq_false_iff_ne.mpr h]
  | cons p es ih =>
      obtain ⟨key, old⟩ := p
      by_cases hkey : key = place
      · rw [put, if_pos (beq_iff_eq.mpr hkey), List.lookup_cons, List.lookup_cons, hkey]
        by_cases h : other = place
        · simp [h]
        · simp [h, beq_eq_false_iff_ne.mpr h]
      · rw [put, if_neg (by simpa using hkey), List.lookup_cons, List.lookup_cons, ih]
        by_cases h : other = key
        · simp [h, hkey]
        · simp [beq_eq_false_iff_ne.mpr h]

theorem put_put (place : Location) (e e' : Entry) (es : List (Location × Entry)) :
    put place e (put place e' es) = put place e es := by
  induction es with
  | nil => simp [put]
  | cons p es ih =>
      obtain ⟨key, old⟩ := p
      by_cases hkey : key = place
      · simp [put, hkey]
      · simp [put, hkey, ih]

/-- An entry at a place that nothing has is put at the end. -/
theorem put_eq_append {place : Location} {es : List (Location × Entry)}
    (h : place ∉ es.map Prod.fst) (e : Entry) : put place e es = es ++ [(place, e)] := by
  induction es with
  | nil => rfl
  | cons p es ih =>
      obtain ⟨key, old⟩ := p
      rw [List.map_cons, List.mem_cons, not_or] at h
      rw [put, if_neg (by simpa using Ne.symm h.1), ih h.2]
      rfl

variable {fs : FileSystem} {place : Location}

/-- After an entry was inserted it stands at its place, and nothing else is changed. -/
theorem get?_insert (hplace : place ≠ []) (fs : FileSystem) (e : Entry) (other : Location) :
    (fs.insert place e).get? other = if other = place then some e else fs.get? other := by
  rw [get?, get?, insert, lookup_put]
  by_cases hroot : other = []
  · simp [hroot, Ne.symm hplace]
  · simp [hroot]

theorem insert_insert (fs : FileSystem) (place : Location) (e e' : Entry) :
    (fs.insert place e').insert place e = fs.insert place e := by
  simp only [insert, put_put]

/-- Removing a new entry gives back the file system as it was. -/
theorem remove_insert (h : place ∉ fs.entries.map Prod.fst) (e : Entry) :
    (fs.insert place e).remove place = fs := by
  have hkept : fs.entries.filter (fun entry => entry.1 != place) = fs.entries := by
    refine List.filter_eq_self.mpr fun entry hentry => ?_
    simpa using fun heq : entry.1 = place => h (heq ▸ List.mem_map_of_mem hentry)
  simp [insert, remove, put_eq_append h, hkept]

/-! ### Fresh names -/

/-- Different numbers give different names of drafts. -/
theorem draftName_injective : Function.Injective draftName := by
  intro m n h
  have hdigits : Nat.toDigits 10 m = Nat.toDigits 10 n := by
    rw [draftName, draftName, Nat.toString_eq_ofList_toDigits, Nat.toString_eq_ofList_toDigits] at h
    exact String.ofList_injective ((String.append_right_inj ".tmp").mp h)
  rw [← Nat.ofDigitChars_ten_toDigits (n := m), hdigits, Nat.ofDigitChars_ten_toDigits]

/-- There are more names for drafts than names that are taken. -/
theorem exists_draftName_notMem (taken : List String) :
    ∃ name ∈ (List.range (taken.length + 1)).map draftName, name ∉ taken := by
  by_contra hall
  simp only [not_exists, not_and, not_not] at hall
  have hnodup : ((List.range (taken.length + 1)).map draftName).Nodup :=
    List.nodup_range.map draftName_injective
  have hlength := (hnodup.subperm hall).length_le
  rw [List.length_map, List.length_range] at hlength
  exact Nat.not_succ_le_self _ hlength

/-- The name of a draft is not taken. -/
theorem freshName_notMem (taken : List String) : freshName taken ∉ taken := by
  rw [freshName]
  cases hfind : ((List.range (taken.length + 1)).map draftName).find? (!taken.contains ·) with
  | none =>
      obtain ⟨name, hname, hfree⟩ := exists_draftName_notMem taken
      simpa [hfree] using List.find?_eq_none.mp hfind name hname
  | some name => simpa using List.find?_some hfind

/-! ### Paths beside a draft -/

variable {directory : Location} {name : String}

/-- An entry is seen only by a step of its name. -/
theorem get?_insert_of_ne {step : String} (h : step ≠ name) (e : Entry) (fs : FileSystem)
    (place : Location) :
    (fs.insert (directory ++ [name]) e).get? (place ++ [step]) = fs.get? (place ++ [step]) := by
  rw [get?_insert (by simp), if_neg]
  intro heq
  exact h (List.singleton_inj.mp (List.append_inj' heq rfl).2)

/-- A walk looks only at places that end with one of its steps. -/
theorem walk_congr {fs fs' : FileSystem} {steps : List String}
    (h : ∀ step ∈ steps, ∀ place, fs'.get? (place ++ [step]) = fs.get? (place ++ [step]))
    (place : Location) : fs'.walk place steps = fs.walk place steps := by
  induction steps generalizing place with
  | nil => rfl
  | cons step rest ih =>
      have hrest := ih fun step hstep => h step (List.mem_cons_of_mem _ hstep)
      simp only [walk, hrest, h step List.mem_cons_self]

/-- A draft under a name that a path does not use leaves the path where it leads. -/
theorem resolve_insert {path : String} (h : name ∉ Path.steps path) (e : Entry) :
    (fs.insert (directory ++ [name]) e).resolve path = fs.resolve path := by
  have hwalk : ∀ place, (fs.insert (directory ++ [name]) e).walk place (Path.steps path).dropLast =
      fs.walk place (Path.steps path).dropLast :=
    walk_congr fun step hstep =>
      get?_insert_of_ne (ne_of_mem_of_not_mem (List.dropLast_subset _ hstep) h) e fs
  have hstart : (fs.insert (directory ++ [name]) e).start path = fs.start path := rfl
  rw [resolve, resolve, hstart, hwalk]

/-- The last step of a path is a name in a directory, and not a dot or two dots. -/
structure IsName (name : String) : Prop where
  ne_dot : name ≠ "."
  ne_dots : name ≠ ".."
  size_le : name.utf8ByteSize ≤ nameLimit

/-- The last step of a path names an entry when it is a name, neither `.` nor `..`. -/
theorem endpoint_eq_named_iff {place : Location} {last : String} :
    endpoint place last = .ok (.named directory name) ↔
      IsName name ∧ last = name ∧ place = directory := by
  rw [endpoint]
  split
  · next hdots =>
      simp only [Bool.or_eq_true, beq_iff_eq] at hdots
      refine ⟨nofun, ?_⟩
      rintro ⟨hname, rfl, -⟩
      exact absurd hdots (not_or.mpr ⟨hname.ne_dot, hname.ne_dots⟩)
  · next hdots =>
      simp only [Bool.or_eq_true, beq_iff_eq, not_or] at hdots
      split
      · next hsize =>
          refine ⟨nofun, ?_⟩
          rintro ⟨hname, rfl, -⟩
          exact absurd hname.size_le (Nat.not_le.mpr hsize)
      · next hsize =>
          simp only [Except.ok.injEq, Endpoint.named.injEq]
          constructor
          · rintro ⟨rfl, rfl⟩
            exact ⟨⟨hdots.1, hdots.2, Nat.not_lt.mp hsize⟩, rfl, rfl⟩
          · rintro ⟨-, rfl, rfl⟩
            exact ⟨rfl, rfl⟩

/-- A path leads to a name when the steps before it lead to a directory. -/
theorem resolve_eq_named_iff {path : String} :
    fs.resolve path = .ok (.named directory name) ↔
      path.utf8ByteSize ≤ pathLimit ∧ path ≠ "" ∧ IsName name ∧
      (Path.steps path).getLast? = some name ∧
      fs.walk (fs.start path) (Path.steps path).dropLast = .ok directory := by
  rw [resolve]
  by_cases hsize : path.utf8ByteSize > pathLimit
  · simp [hsize, Nat.not_le.mpr hsize]
  by_cases hempty : path = ""
  · simp [hempty]
  rw [if_neg hsize, if_neg (by simpa using hempty), and_iff_right (Nat.not_lt.mp hsize),
    and_iff_right hempty]
  cases (Path.steps path).getLast? with
  | none => simp
  | some last =>
      simp only [bind_eq_ok_iff, endpoint_eq_named_iff, Option.some.injEq]
      constructor
      · rintro ⟨place, hwalk, hname, rfl, rfl⟩
        exact ⟨hname, rfl, hwalk⟩
      · rintro ⟨hname, rfl, hwalk⟩
        exact ⟨directory, hwalk, hname, rfl, rfl⟩

/-- Nor does such a draft change where a file is moved to. -/
theorem moveTarget_insert {path : String} (h : name ∉ Path.steps path) (e : Entry) :
    (fs.insert (directory ++ [name]) e).moveTarget path = fs.moveTarget path := by
  rw [moveTarget, moveTarget, resolve_insert h]
  cases hresolve : fs.resolve path with
  | error cause => rfl
  | ok endpoint =>
      cases endpoint with
      | directory => rfl
      | named place last =>
          have hlast : last ∈ Path.steps path :=
            List.mem_of_getLast? (resolve_eq_named_iff.mp hresolve).2.2.2.1
          simp only [ok_bind, get?_insert_of_ne (ne_of_mem_of_not_mem hlast h)]

/-! ### Writing -/

/-- Where a text goes that is written to a path. -/
def writeTarget (fs : FileSystem) (path : String) : Except FileError Location := do
  let _ ← fs.draftDirectory (Path.parent path)
  fs.moveTarget path

/-- **Writing is all or nothing.**  The text is put at its place and the draft is gone, or the file
system is what it was. -/
theorem write_eq (fs : FileSystem) (path contents : String) :
    fs.write path contents =
      match fs.writeTarget path with
      | .error cause => (.error cause, fs)
      | .ok place => (.ok (), fs.insert place (.file contents.toUTF8)) := by
  rw [write, makeDraft, writeTarget]
  cases fs.draftDirectory (Path.parent path) with
  | error cause => rfl
  | ok directory =>
      have hfresh := freshName_notMem (fs.names ++ Path.steps path)
      rw [List.mem_append, not_or] at hfresh
      obtain ⟨hnames, hsteps⟩ := hfresh
      generalize freshName (fs.names ++ Path.steps path) = name at hnames hsteps
      -- No entry has the name of the draft, so none stands at its place.
      have hfree : directory ++ [name] ∉ fs.entries.map Prod.fst := by
        intro hmem
        obtain ⟨entry, hentry, hplace⟩ := List.mem_map.mp hmem
        exact hnames (List.mem_flatMap.mpr ⟨entry, hentry, hplace ▸ by simp⟩)
      have hdraft : (fs.insert (directory ++ [name]) (.file contents.toUTF8)).get?
          (directory ++ [name]) = some (.file contents.toUTF8) := by
        rw [get?_insert (by simp), if_pos rfl]
      simp only [ok_bind, insert_insert, move, moveTarget_insert hsteps, hdraft,
        remove_insert hfree, pure, Except.pure]
      cases fs.moveTarget path with
      | error cause => rfl
      | ok place => rfl

end AstForge.FileSystem
