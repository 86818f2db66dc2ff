import AstForge.Log.Directive

/-!
# The log — filters

A filter chooses which events are shown. It is a list of directives with commas between them. Of the
directives that cover an event the one that says most about it decides, and of several that say as
much the last. A directive that cannot be read is left out and reported.
-/

namespace AstForge

/-- Which events are shown, and what is reported of the text that says so. -/
structure LogFilter where
  directives : List Directive
  reports : List String
  deriving DecidableEq

namespace LogFilter

/-- Reads a filter. -/
def parse (s : String) : LogFilter :=
  let texts := ((s.toList.splitOn ',').filter (!·.isEmpty)).map String.ofList
  let read := texts.map fun text => (text, Directive.parse text)
  { directives := read.filterMap fun r => r.2.toOption
    reports := read.filterMap fun (text, result) =>
      match result with
      | .ok _ => none
      | .error cause => some ("ignoring \x60" ++ text ++ "\x60: " ++ cause.message ++ "\n") }

/-- The directive that decides about an event. -/
def deciding? (f : LogFilter) (e : Event) : Option Directive :=
  (f.directives.filter (·.covers e)).foldl
    (fun best d => if best.all d.atLeast then some d else best)
    none

/-- Whether a filter shows an event. -/
def shows (f : LogFilter) (e : Event) : Bool :=
  (f.deciding? e).any (e.level.rank ≤ ·.rank)

/-- The lines of the events that a filter shows. -/
def render (f : LogFilter) (events : List Event) : String :=
  String.join ((events.filter f.shows).map Event.render)

end LogFilter

end AstForge
