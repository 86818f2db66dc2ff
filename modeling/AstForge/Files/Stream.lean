import AstForge.Document.Error

/-!
# Files — streams

A stream takes bytes until it is full. Writing a text to a stream that lacks the room for it fills
the stream and fails.
-/

namespace AstForge

/-- A stream: the bytes it took, and how many more it takes if it is bounded. -/
structure Stream where
  taken : ByteArray
  room : Option Nat

/-- Writes a text to a stream. -/
def Stream.write (s : Stream) (contents : String) : Except GenerationError Unit × Stream :=
  let bytes := contents.toUTF8
  match s.room with
  | none => (.ok (), ⟨s.taken ++ bytes, none⟩)
  | some room =>
    let filled : Stream := ⟨s.taken ++ bytes.extract 0 room, some (room - bytes.size)⟩
    if bytes.size ≤ room then (.ok (), filled) else (.error (.stream .outOfRoom), filled)

end AstForge
