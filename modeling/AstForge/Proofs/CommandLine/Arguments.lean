import AstForge.CommandLine.Arguments
import AstForge.Proofs.Except

/-!
# Command line — the grammar of the arguments

Arguments are *items* written one after another.  An item is a flag with its value, which may be any
text, or a word that is not written like a flag.  There is one way to cut arguments into items
(`eq_of_written_eq`), although whether an argument is a flag, a value or a word depends on all that
precede it.

Reading keeps the last value of each flag and the word, and nothing else of the items
(`Readable.readArguments_eq_ok_iff`).

* `Arguments.parse_accepts_items`: which arguments are accepted, what they ask for, and that the
  order of the items matters only among those of one flag.
-/

namespace AstForge.CommandLine

/-! ### Items -/

/-- The text of a flag. -/
def Flag.text : Flag → String
  | .target => "--target"
  | .package => "--package"
  | .base => "--base"
  | .table => "--table"

/-- A flag with its value, or a word that is not written like a flag. -/
inductive Item where
  | value (flag : Flag) (text : String)
  | word (text : String) (plain : looksLikeFlag text = false)

namespace Item

/-- The arguments that an item is written as. -/
def written : Item → List String
  | value flag text => [flag.text, text]
  | word text _ => [text]

/-- The value that an item gives to a flag. -/
def value? (flag : Flag) : Item → Option String
  | value flag' text => if flag' = flag then some text else none
  | word _ _ => none

/-- The word that an item is. -/
def word? : Item → Option String
  | value _ _ => none
  | word text _ => some text

end Item

/-- The arguments that items are written as. -/
def written (items : List Item) : List String :=
  items.flatMap Item.written

/-- The values of a flag, in the order of the items. -/
def values (flag : Flag) (items : List Item) : List String :=
  items.filterMap (Item.value? flag)

/-- The words, in the order of the items. -/
def words (items : List Item) : List String :=
  items.filterMap Item.word?

theorem Flag.parse?_text (flag : Flag) : Flag.parse? flag.text = some flag := by
  cases flag with
  | target => rfl
  | package => rfl
  | base => rfl
  | table => rfl

/-- Each flag has one text from which it is read. -/
theorem Flag.eq_text_of_parse? {flag : Flag} {s : String} (h : Flag.parse? s = some flag) :
    s = flag.text := by
  grind [Flag.parse?, Flag.text]

theorem looksLikeFlag_text (flag : Flag) : looksLikeFlag flag.text := by
  cases flag with
  | target => rfl
  | package => rfl
  | base => rfl
  | table => rfl

theorem Flag.text_ne_of_plain {flag : Flag} {s : String} (h : looksLikeFlag s = false) :
    flag.text ≠ s := by
  rintro rfl
  rw [looksLikeFlag_text] at h
  cases h

theorem Flag.parse?_eq_none_of_plain {s : String} (h : looksLikeFlag s = false) :
    Flag.parse? s = none := by
  cases hflag : Flag.parse? s with
  | none => rfl
  | some flag => exact absurd (Flag.eq_text_of_parse? hflag).symm (Flag.text_ne_of_plain h)

theorem Flag.text_injective {flag flag' : Flag} (h : flag.text = flag'.text) : flag = flag' := by
  have hparse := flag.parse?_text
  rw [h, flag'.parse?_text] at hparse
  exact (Option.some.inj hparse).symm

/-- The first item of some arguments is told by its first argument. -/
theorem Item.eq_of_written_append_eq {item item' : Item} {rest rest' : List String}
    (h : item.written ++ rest = item'.written ++ rest') : item = item' ∧ rest = rest' := by
  cases item with
  | value flag text =>
      cases item' with
      | value flag' text' =>
          obtain ⟨hflag, htail⟩ := List.cons.inj h
          obtain ⟨rfl, hrest⟩ := List.cons.inj htail
          exact ⟨by rw [Flag.text_injective hflag], hrest⟩
      | word text' plain => exact absurd (List.cons.inj h).1 (Flag.text_ne_of_plain plain)
  | word text plain =>
      cases item' with
      | value flag' text' => exact absurd (List.cons.inj h).1.symm (Flag.text_ne_of_plain plain)
      | word text' plain' =>
          obtain ⟨rfl, hrest⟩ := List.cons.inj h
          exact ⟨rfl, hrest⟩

theorem written_cons (item : Item) (items : List Item) :
    written (item :: items) = item.written ++ written items :=
  List.flatMap_cons

theorem written_cons_ne_nil (item : Item) (items : List Item) :
    written (item :: items) ≠ [] := by
  cases item with
  | value flag text => exact nofun
  | word text plain => exact nofun

/-- **One way to cut.**  Arguments are written by one list of items at most. -/
theorem eq_of_written_eq {items items' : List Item} (h : written items = written items') :
    items = items' := by
  induction items generalizing items' with
  | nil =>
      cases items' with
      | nil => rfl
      | cons item' items' => exact absurd h.symm (written_cons_ne_nil item' items')
  | cons item items ih =>
      cases items' with
      | nil => exact absurd h (written_cons_ne_nil item items)
      | cons item' items' =>
          obtain ⟨rfl, hrest⟩ := Item.eq_of_written_append_eq h
          rw [ih hrest]

/-! ### Reading items -/

/-- Takes an item. -/
def Given.take (given : Given) : Item → Except UsageError Given
  | .value flag text => given.set flag text
  | .word text _ => readArguments.readWord given text

/-- Reading takes the items one after another. -/
theorem readArguments_written_cons (given : Given) (item : Item) (items : List Item) :
    readArguments given (written (item :: items)) =
      given.take item >>= fun given => readArguments given (written items) := by
  rw [written_cons]
  cases item with
  | value flag text =>
      show readArguments given (flag.text :: text :: written items) = _
      rw [readArguments, flag.parse?_text]
      rfl
  | word text plain =>
      show readArguments given (text :: written items) = _
      -- The last argument is read by a rule of its own, for it can have no value after it.
      cases written items with
      | nil =>
          rw [readArguments, Flag.parse?_eq_none_of_plain plain]
          show readArguments.readWord given text = readArguments.readWord given text >>= Except.ok
          exact (bind_pure _).symm
      | cons value rest =>
          rw [readArguments, Flag.parse?_eq_none_of_plain plain]
          rfl

/-- A word is taken as the output directory, unless it looks like a flag or there is one already. -/
theorem readWord_eq_ok_iff {given given' : Given} {argument : String} :
    readArguments.readWord given argument = .ok given' ↔
      looksLikeFlag argument = false ∧ given.outputDirectory = none ∧
        given' = { given with outputDirectory := some argument } := by
  cases hflag : looksLikeFlag argument with
  | true => simp [readArguments.readWord, hflag]
  | false =>
      cases hdirectory : given.outputDirectory with
      | some directory => simp [readArguments.readWord, hflag, hdirectory]
      | none => simp [readArguments.readWord, hflag, hdirectory, @eq_comm _ given']

/-- Arguments that are read to the end are made of items. -/
theorem exists_written_of_readArguments_eq_ok {given given' : Given} {arguments : List String}
    (h : readArguments given arguments = .ok given') : ∃ items, written items = arguments := by
  fun_induction readArguments given arguments with
  | case1 given => exact ⟨[], rfl⟩
  | case2 given argument hflag => cases h
  | case3 given argument hflag =>
      exact ⟨[.word argument (readWord_eq_ok_iff.mp h).1], rfl⟩
  | case4 given argument value rest flag hflag ih =>
      obtain ⟨given₁, -, hrest⟩ := bind_eq_ok_iff.mp h
      obtain ⟨items, rfl⟩ := ih given₁ hrest
      exact ⟨.value flag value :: items, by rw [Flag.eq_text_of_parse? hflag]; rfl⟩
  | case5 given argument value rest hflag ih =>
      obtain ⟨given₁, hword, hrest⟩ := bind_eq_ok_iff.mp h
      obtain ⟨items, hitems⟩ := ih given₁ hrest
      exact ⟨.word argument (readWord_eq_ok_iff.mp hword).1 :: items, by rw [← hitems]; rfl⟩

/-! ### What is kept of the items -/

/-- Every target is known and there is at most one word. -/
structure Readable (items : List Item) : Prop where
  targets : ∀ text ∈ values .target items, (Target.parse? text).isSome
  oneWord : (words items).length ≤ 1

/-- What is kept of the items: the last value of each flag, and the word. -/
def Given.ofItems (items : List Item) : Given where
  target := ((values .target items).getLast?.bind Target.parse?).getD .java
  package := (values .package items).getLast?
  base := (values .base items).getLast?
  table := (values .table items).getLast?
  outputDirectory := (words items).head?

theorem values_append (flag : Flag) (items items' : List Item) :
    values flag (items ++ items') = values flag items ++ values flag items' :=
  List.filterMap_append

theorem words_append (items items' : List Item) :
    words (items ++ items') = words items ++ words items' :=
  List.filterMap_append

@[simp] theorem values_concat_value (flag flag' : Flag) (text : String) (items : List Item) :
    values flag (items ++ [.value flag' text]) =
      values flag items ++ if flag' = flag then [text] else [] := by
  by_cases h : flag' = flag
  · simp [values, Item.value?, h]
  · simp [values, Item.value?, h]

@[simp] theorem values_concat_word (flag : Flag) (text : String) (plain) (items : List Item) :
    values flag (items ++ [.word text plain]) = values flag items := by
  simp [values, Item.value?]

@[simp] theorem words_concat_value (flag : Flag) (text : String) (items : List Item) :
    words (items ++ [.value flag text]) = words items := by
  simp [words, Item.word?]

@[simp] theorem words_concat_word (text : String) (plain) (items : List Item) :
    words (items ++ [.word text plain]) = words items ++ [text] := by
  simp [words, Item.word?]

/-- Items that can be read can be read up to any place. -/
theorem Readable.of_append {items items' : List Item} (h : Readable (items ++ items')) :
    Readable items := by
  obtain ⟨htargets, hwords⟩ := h
  rw [values_append] at htargets
  rw [words_append, List.length_append] at hwords
  exact ⟨fun text htext => htargets text (List.mem_append_left _ htext), by omega⟩

section

variable {before : List Item} (h : Readable before)
include h

/-- A value can be read after readable items, but for a target it has to be the name of one. -/
theorem Readable.concat_value_iff {flag : Flag} {text : String} :
    Readable (before ++ [.value flag text]) ↔ (flag = .target → (Target.parse? text).isSome) := by
  constructor
  · rintro hconcat rfl
    exact hconcat.targets text (by simp)
  · intro htext
    refine ⟨?_, by simpa using h.oneWord⟩
    intro other hother
    rw [values_concat_value, List.mem_append] at hother
    rcases hother with hother | hother
    · exact h.targets other hother
    · by_cases hflag : flag = .target
      · rw [if_pos hflag, List.mem_singleton] at hother
        exact hother ▸ htext hflag
      · rw [if_neg hflag] at hother
        cases hother

/-- A word can be read after readable items if it is the first one. -/
theorem Readable.concat_word_iff {text : String} {plain : looksLikeFlag text = false} :
    Readable (before ++ [.word text plain]) ↔ words before = [] := by
  constructor
  · intro hconcat
    have hlength := hconcat.oneWord
    rw [words_concat_word, List.length_append, List.length_singleton] at hlength
    exact List.eq_nil_of_length_eq_zero (by omega)
  · intro hwords
    exact ⟨by simpa using h.targets, by simp [hwords]⟩

/-- **A step of reading.**  An item is taken if the items stay readable with it. -/
theorem Readable.take_eq_ok_iff {item : Item} {given : Given} :
    (Given.ofItems before).take item = .ok given ↔
      Readable (before ++ [item]) ∧ given = Given.ofItems (before ++ [item]) := by
  cases item with
  | value flag text =>
      rw [h.concat_value_iff, Given.take]
      cases flag with
      | target =>
          cases htext : Target.parse? text with
          | none => simp [Given.set, htext]
          | some target => simp [Given.set, htext, Given.ofItems, @eq_comm _ given]
      | package => simp [Given.set, Given.ofItems, @eq_comm _ given]
      | base => simp [Given.set, Given.ofItems, @eq_comm _ given]
      | table => simp [Given.set, Given.ofItems, @eq_comm _ given]
  | word text plain =>
      rw [h.concat_word_iff, Given.take, readWord_eq_ok_iff]
      constructor
      · rintro ⟨-, hdirectory, rfl⟩
        have hwords : words before = [] := List.head?_eq_none_iff.mp hdirectory
        simp [Given.ofItems, hwords]
      · rintro ⟨hwords, rfl⟩
        simp [Given.ofItems, hwords, plain]

/-- **A run.**  After the items of `before`, reading goes on to the end if all items are readable
together. -/
theorem Readable.readArguments_eq_ok_iff {items : List Item} {given : Given} :
    readArguments (Given.ofItems before) (written items) = .ok given ↔
      Readable (before ++ items) ∧ given = Given.ofItems (before ++ items) := by
  -- On the items still to be read: what was read before is known from the items that were taken.
  induction items generalizing before with
  | nil =>
      show Except.ok _ = Except.ok given ↔ _
      rw [List.append_nil, Except.ok.injEq, eq_comm]
      exact ⟨fun hgiven => ⟨h, hgiven⟩, fun hgiven => hgiven.2⟩
  | cons item items ih =>
      rw [readArguments_written_cons, bind_eq_ok_iff, List.append_cons]
      constructor
      · rintro ⟨given₁, htake, hrest⟩
        obtain ⟨hconcat, rfl⟩ := h.take_eq_ok_iff.mp htake
        exact (ih hconcat).mp hrest
      · intro hall
        have hconcat : Readable (before ++ [item]) := hall.1.of_append
        exact ⟨_, h.take_eq_ok_iff.mpr ⟨hconcat, rfl⟩, (ih hconcat).mpr hall⟩

end

/-! ### Accepted arguments -/

/-- What was read of arguments that ask for `a`. -/
def Arguments.given (a : Arguments) : Given where
  target := a.target
  package := a.package
  base := a.table.map Prod.fst
  table := a.table.map Prod.snd
  outputDirectory := some a.outputDirectory

/-- What was given makes up arguments exactly when it is what these arguments give. -/
theorem Given.finish_eq_ok_iff {given : Given} {a : Arguments} :
    given.finish = .ok a ↔ given = a.given := by
  constructor
  · intro h
    obtain ⟨target, package, base, table, outputDirectory⟩ := given
    cases base with
    | none =>
        cases table with
        | none =>
            cases outputDirectory with
            | none => cases h
            | some directory => cases h; rfl
        | some table => cases h
    | some base =>
        cases table with
        | none => cases h
        | some table =>
            cases outputDirectory with
            | none => cases h
            | some directory => cases h; rfl
  · rintro rfl
    obtain ⟨target, package, table, outputDirectory⟩ := a
    cases table with
    | none => rfl
    | some table => rfl

/-- Written items are accepted when they can be read and give what the arguments give. -/
theorem parse_written_eq_ok_iff {items : List Item} {a : Arguments} :
    Arguments.parse (written items) = .ok a ↔
      Readable items ∧ Given.ofItems items = a.given := by
  have hnothing : Readable [] := ⟨nofun, Nat.zero_le 1⟩
  rw [Arguments.parse, bind_eq_ok_iff]
  constructor
  · rintro ⟨given, hread, hfinish⟩
    obtain ⟨hreadable, rfl⟩ := hnothing.readArguments_eq_ok_iff.mp hread
    exact ⟨hreadable, Given.finish_eq_ok_iff.mp hfinish⟩
  · rintro ⟨hreadable, hgiven⟩
    exact ⟨_, hnothing.readArguments_eq_ok_iff.mpr ⟨hreadable, rfl⟩,
      Given.finish_eq_ok_iff.mpr hgiven⟩

/-- The items that the program accepts: one word, known targets, and a base type together with a
table. -/
structure Complete (items : List Item) : Prop where
  directory : ∃ word, words items = [word]
  targets : ∀ text ∈ values .target items, (Target.parse? text).isSome
  paired : values .base items ≠ [] ↔ values .table items ≠ []

/-- The items ask for `a`: the last value of each flag counts, and the word. -/
structure Asks (items : List Item) (a : Arguments) : Prop where
  target : (values .target items).getLast?.elim (some .java) Target.parse? = some a.target
  package : (values .package items).getLast? = a.package
  base : (values .base items).getLast? = a.table.map Prod.fst
  table : (values .table items).getLast? = a.table.map Prod.snd
  directory : words items = [a.outputDirectory]

/-- A base type and a table make up a pair, or no pair, when both are there or neither is. -/
theorem exists_pair_iff {base table : Option String} :
    (∃ pair : Option (String × String), base = pair.map Prod.fst ∧ table = pair.map Prod.snd) ↔
      (base ≠ none ↔ table ≠ none) := by
  constructor
  · rintro ⟨pair, rfl, rfl⟩
    simp
  · intro h
    cases base with
    | none => exact ⟨none, rfl, by simpa using h⟩
    | some base =>
        obtain ⟨table, rfl⟩ := Option.ne_none_iff_exists'.mp (h.mp nofun)
        exact ⟨some (base, table), rfl, rfl⟩

/-- Readable items have at most one word, so the first is the only one. -/
theorem words_eq_singleton {items : List Item} (h : Readable items) {word : String}
    (hword : (words items).head? = some word) : words items = [word] := by
  obtain ⟨rest, hrest⟩ := List.head?_eq_some_iff.mp hword
  have hlength := h.oneWord
  rw [hrest, List.length_cons] at hlength
  rw [hrest, List.eq_nil_of_length_eq_zero (l := rest) (by omega)]

/-- Items are complete when they can be read and give what some arguments give. -/
theorem complete_iff {items : List Item} :
    Complete items ↔ Readable items ∧ ∃ a : Arguments, Given.ofItems items = a.given := by
  constructor
  · rintro ⟨⟨word, hword⟩, htargets, hpaired⟩
    obtain ⟨pair, hbase, htable⟩ := exists_pair_iff.mpr
      (by simpa using hpaired :
        (values .base items).getLast? ≠ none ↔ (values .table items).getLast? ≠ none)
    refine ⟨⟨htargets, by simp [hword]⟩,
      ⟨(Given.ofItems items).target, (values .package items).getLast?, pair, word⟩, ?_⟩
    simp [Given.ofItems, Arguments.given, hbase, htable, hword]
  · rintro ⟨hreadable, a, hgiven⟩
    have hbase : (values .base items).getLast? = _ := congrArg Given.base hgiven
    have htable : (values .table items).getLast? = _ := congrArg Given.table hgiven
    have hpaired := exists_pair_iff.mp ⟨a.table, hbase, htable⟩
    exact ⟨⟨_, words_eq_singleton hreadable (congrArg Given.outputDirectory hgiven)⟩,
      hreadable.targets, by simpa using hpaired⟩

/-- Items that give what some arguments give ask for what these arguments say. -/
theorem asks_of_given {items : List Item} (h : Readable items) {a : Arguments}
    (hgiven : Given.ofItems items = a.given) : Asks items a where
  target := by
    have htarget : ((values .target items).getLast?.bind Target.parse?).getD .java = a.target :=
      congrArg Given.target hgiven
    cases hlast : (values .target items).getLast? with
    | none =>
        rw [hlast] at htarget
        exact congrArg some htarget
    | some text =>
        obtain ⟨target, hparse⟩ :=
          Option.isSome_iff_exists.mp (h.targets text (List.mem_of_getLast? hlast))
        rw [hlast, Option.bind_some, hparse] at htarget
        exact hparse.trans (congrArg some htarget)
  package := congrArg Given.package hgiven
  base := congrArg Given.base hgiven
  table := congrArg Given.table hgiven
  directory := words_eq_singleton h (congrArg Given.outputDirectory hgiven)

section

variable {items items' : List Item} (hperm : items'.Perm items)
  (hvalues : ∀ flag, values flag items' = values flag items)
include hperm hvalues

/-- Whether items can be read does not depend on their order. -/
theorem readable_iff_of_perm : Readable items' ↔ Readable items := by
  have hlength : (words items').length = (words items).length := (hperm.filterMap _).length_eq
  constructor
  · rintro ⟨htargets, hwords⟩
    exact ⟨hvalues .target ▸ htargets, hlength ▸ hwords⟩
  · rintro ⟨htargets, hwords⟩
    exact ⟨(hvalues .target).symm ▸ htargets, hlength.symm ▸ hwords⟩

/-- Nor does what they give, if each flag keeps its values in order. -/
theorem ofItems_eq_of_perm (h : Readable items) : Given.ofItems items' = Given.ofItems items := by
  have hwords : (words items').Perm (words items) := hperm.filterMap _
  have heq : words items' = words items := by
    cases hitems : words items with
    | nil => exact (hitems ▸ hwords).eq_nil
    | cons word rest =>
        have hone := words_eq_singleton h (congrArg List.head? hitems)
        rw [← hitems, hone]
        exact List.perm_singleton.mp (hone ▸ hwords)
  simp only [Given.ofItems, hvalues, heq]

end

/-- **The arguments are accepted by their items.**  Arguments are accepted exactly if they can be
cut into items of which one is a word, all targets are known, and a base type comes with a table.
They can be cut in one way only.  They ask for the last value of each flag and for the word as the
output directory.  So the same is asked for in any order of the items that keeps the order among
those of one flag. -/
theorem Arguments.parse_accepts_items (arguments : List String) :
    ((∃ a, Arguments.parse arguments = .ok a) ↔
      ∃ items, written items = arguments ∧ Complete items) ∧
    ∀ items, written items = arguments →
      (∀ items', written items' = arguments → items' = items) ∧
      (∀ a, Arguments.parse arguments = .ok a → Asks items a) ∧
      ∀ items', items'.Perm items → (∀ flag, values flag items' = values flag items) →
        ∀ a, Arguments.parse (written items') = .ok a ↔ Arguments.parse arguments = .ok a := by
  refine ⟨⟨?_, ?_⟩, ?_⟩
  · rintro ⟨a, ha⟩
    obtain ⟨given, hread, -⟩ := bind_eq_ok_iff.mp ha
    obtain ⟨items, rfl⟩ := exists_written_of_readArguments_eq_ok hread
    obtain ⟨hreadable, hgiven⟩ := parse_written_eq_ok_iff.mp ha
    exact ⟨items, rfl, complete_iff.mpr ⟨hreadable, a, hgiven⟩⟩
  · rintro ⟨items, rfl, hcomplete⟩
    obtain ⟨hreadable, a, hgiven⟩ := complete_iff.mp hcomplete
    exact ⟨a, parse_written_eq_ok_iff.mpr ⟨hreadable, hgiven⟩⟩
  · rintro items rfl
    refine ⟨fun _ => eq_of_written_eq, fun a ha => ?_, fun items' hperm hvalues a => ?_⟩
    · obtain ⟨hreadable, hgiven⟩ := parse_written_eq_ok_iff.mp ha
      exact asks_of_given hreadable hgiven
    · rw [parse_written_eq_ok_iff, parse_written_eq_ok_iff, readable_iff_of_perm hperm hvalues]
      refine and_congr_right fun hreadable => ?_
      rw [ofItems_eq_of_perm hperm hvalues hreadable]

/-- A value that is written like a flag, and a flag that is given twice. -/
def twoPackages : List Item :=
  [.value .package "--base", .word "out" rfl, .value .target "RS", .value .package "lib.tree"]

/-- The word moves to the end. -/
theorem parse_accepts_items_twoPackages :
    Complete twoPackages ∧
      Arguments.parse ["--package", "--base", "--target", "RS", "--package", "lib.tree", "out"] =
        .ok ⟨.rust, some "lib.tree", none, "out"⟩ := by
  have hparse : Arguments.parse (written twoPackages) =
      .ok ⟨.rust, some "lib.tree", none, "out"⟩ := rfl
  obtain ⟨haccepted, hitems⟩ := Arguments.parse_accepts_items (written twoPackages)
  obtain ⟨hunique, -, hreordered⟩ := hitems twoPackages rfl
  obtain ⟨items, hwritten, hcomplete⟩ := haccepted.mp ⟨_, hparse⟩
  obtain rfl := hunique items hwritten
  have hperm : List.Perm
      [.value .package "--base", .value .target "RS", .value .package "lib.tree", .word "out" rfl]
      twoPackages :=
    (List.perm_append_singleton _ [_, _]).cons _
  refine ⟨hcomplete, (hreordered _ hperm (fun flag => ?_) _).mpr hparse⟩
  cases flag with
  | target => rfl
  | package => rfl
  | base => rfl
  | table => rfl

end AstForge.CommandLine
