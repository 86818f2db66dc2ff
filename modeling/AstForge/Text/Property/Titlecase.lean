import AstForge.Text.Run

/-!
# Text — title-case letters

The Unicode category Lt: digraphs and Greek letters with an adscript iota, which are neither upper
nor lower case and still have a case.
-/

namespace AstForge.Text

/-- The characters of category Lt; none of them is ASCII. -/
def titlecaseRuns : List Run :=
  [⟨0x1C5, 0x1C5, 1⟩, ⟨0x1C8, 0x1C8, 1⟩, ⟨0x1CB, 0x1CB, 1⟩, ⟨0x1F2, 0x1F2, 1⟩,
   ⟨0x1F88, 0x1F8F, 1⟩, ⟨0x1F98, 0x1F9F, 1⟩, ⟨0x1FA8, 0x1FAF, 1⟩, ⟨0x1FBC, 0x1FBC, 1⟩,
   ⟨0x1FCC, 0x1FCC, 1⟩, ⟨0x1FFC, 0x1FFC, 1⟩]

/-- Whether `c` has the Unicode category Lt. -/
def isTitlecase (c : Char) : Bool :=
  inRuns titlecaseRuns c

end AstForge.Text
