import Tokenizer.Log.Directive.Parser

/-!
# Log filters

A filter is a list of directives between commas. Of the directives that hold for an event the most
specific one decides, and events for which none holds are dropped.
-/

namespace Tokenizer.Log

/-- Directives in the order in which they were given. -/
structure Filter where
  directives : List Directive
deriving DecidableEq

namespace Filter

/-- The filter that a text denotes. Nothing between two commas is no directive. -/
def parse (text : String) : Except FilterError Filter := do
  let parts := (text.toList.splitOn ',').filter (· != [])
  return ⟨← parts.mapM Directive.parse⟩

/-- The more specific of two directives, the later one if both are equally specific. -/
def prefer (best : Option Directive) (d : Directive) : Option Directive :=
  match best with
  | some b => if d.outranks b then some d else some b
  | none => some d

/-- The directive that decides about an event. -/
def deciding? (f : Filter) (e : Event) : Option Directive :=
  (f.directives.filter (·.holdsFor e)).foldl prefer none

/-- Whether an event is let through. -/
def allows (f : Filter) (e : Event) : Bool :=
  (f.deciding? e).any fun d => e.level.rank ≤ d.verbosity

end Filter

end Tokenizer.Log
