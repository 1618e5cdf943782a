import AccessPortal.Log.Directive

/-!
# Log filters

A filter is written as directives between commas. Of the directives meant for a record the one that
names the longest source decides. A filter without directives lets nothing through.
-/

namespace AccessPortal
namespace Log

/-- Directives, the most specific first. -/
abbrev Filter := List Directive

namespace Filter

/-- Adds a directive in front of all that are no more specific, so that a repeated one wins. -/
def insert (directive : Directive) : Filter → Filter
  | [] => [directive]
  | first :: rest =>
    if directive.precedes first then directive :: first :: rest else first :: insert directive rest

def upTo (level : Level) : Filter :=
  [{ rank := level.rank }]

/--
The filter written by a text, if every directive of it is well formed. Two commas with nothing
between them count as one.
-/
def parse? (text : String) : Option Filter := do
  let parts := (text.toList.splitOnP (· == ',')).filter (!·.isEmpty)
  let directives ← parts.mapM Directive.parse?
  return (directives.filterMap id).foldl (fun filter directive => insert directive filter) []

/-- Whether a filter lets a record through: the most specific directive meant for it decides. -/
def enables (filter : Filter) (record : Record) : Bool :=
  (filter.find? (·.concerns record)).any (record.level.rank ≤ ·.rank)

/--
The filter of a run: the one given for this run if it is well formed, otherwise the configured one,
otherwise everything up to `info`.
-/
def choose (override : Option String) (level : String) : Filter :=
  ((override.bind parse?).or (parse? level)).getD (upTo .info)

end Filter
end Log
end AccessPortal
