import Tokenizer.Log.Event

/-!
# Directives of a log filter

A directive lets events through up to a level. It may ask for events whose target starts with a
text, for events in a span of a name, and for events with a field of a name, or with a value for it.

The program has no spans, and values are compared in spans only. So a directive with a span or a
value may be written, but it holds for no event.
-/

namespace Tokenizer.Log

/-- What a directive asks of the fields. -/
structure FieldCondition where
  name : String
  /-- The value or the pattern of values of the field, if any is asked for. -/
  value : Option String
deriving DecidableEq

/-- Lets events of one part of the program through, up to a level. -/
structure Directive where
  /-- What the target of an event has to start with, if anything. -/
  target : Option String := none
  /-- The span in which an event has to happen, if any. -/
  span : Option String := none
  field : Option FieldCondition := none
  /-- The rank of the last level that is let through, `0` for none. -/
  verbosity : Nat
deriving DecidableEq

namespace Directive

/-- Whether a directive holds for an event. -/
def holdsFor (d : Directive) (e : Event) : Bool :=
  (d.target.all fun t => t.toList.isPrefixOf e.target.toList) && d.span.isNone &&
    d.field.all fun f => f.value.isNone && e.hasField f.name

/-- How specific a target is: a longer one is more specific than a shorter one, and any target more
than none. -/
def targetRank (d : Directive) : Nat :=
  match d.target with
  | some t => t.utf8ByteSize + 1
  | none => 0

/-- How specific a field is: the later of two names in the order of characters counts as more
specific, and any name as more specific than none. -/
def fieldRank (d : Directive) : List Char :=
  match d.field with
  | some f => f.name.toList
  | none => []

/-- Whether a directive is at least as specific as another that holds for the same event: by its
target, and then by its field. -/
def outranks (d b : Directive) : Bool :=
  b.targetRank < d.targetRank ||
    b.targetRank == d.targetRank && !d.fieldRank.lex b.fieldRank fun x y => x.toNat < y.toNat

end Directive

end Tokenizer.Log
