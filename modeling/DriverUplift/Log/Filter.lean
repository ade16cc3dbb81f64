import DriverUplift.Log.Directive

/-!
# Log filters

A filter is a list of directives.  Of those that concern an event, the most
specific one decides whether it is shown.
-/

namespace DriverUplift.Log

/-- The directives of a filter, in the order in which they were given. -/
abbrev Filter := List Directive

namespace Filter

def ofLevel (level : Level) : Filter :=
  [.ofThreshold (some level)]

def ofParts (parts : List Directive.Part) : Filter :=
  parts.filterMap fun part =>
    match part with
    | .directive directive => some directive
    | .elsewhere => none

/-- Read a filter text.  A text without any part shows errors only. -/
def parse? (text : String) : Option Filter :=
  let parts := (Text.splitWhere (· == ',') text.toList).filter (!·.isEmpty)
  if parts.isEmpty then some (ofLevel .error) else (parts.mapM Directive.part?).map ofParts

/-- The most specific directive for an event; of equally specific ones the last. -/
def deciding? (filter : Filter) (event : Event) : Option Directive :=
  (filter.filter (Directive.concerns event)).foldl (fun best directive =>
    match best with
    | none => some directive
    | some other => if directive.isAsSpecific other then some directive else best) none

def shows (filter : Filter) (event : Event) : Bool :=
  match deciding? filter event with
  | some directive => event.level.passes directive.threshold
  | none => false

end Filter

end DriverUplift.Log
