import ObjectBridge.Logging.Filter
import ObjectBridge.Path

/-!
# The libraries of a log

What a log lets through is left to a library of filters, and the files that it is written to are
made by another one.  The filters of this project are such a library, and so are files that are
told apart by the spelling of their paths; the program runs with both.

Main results:

- Definition `FilterLibrary`: what a library of filters offers.
- Definition `RollingFiles`: what a library of daily files offers.
-/

namespace ObjectBridge

/-- A library of filters. -/
class FilterLibrary where
  /-- A directive. -/
  Rule : Type
  /-- A filter, made of directives. -/
  Filter : Type
  /-- The directive of a text, if it is the text of one. -/
  parse : String → Option Rule
  /-- The directive that lets everything through up to a level. -/
  ofLevel : Level → Rule
  /-- The filter of an environment variable, if that is set. -/
  ofVariable : Option String → Filter
  /-- What is complained of when the variable is read. -/
  complaints : Option String → List String
  /-- A filter with one more directive. -/
  addRule : Filter → Rule → Filter
  /-- Whether a level is let through for a target with its fields, perhaps inside of a span. -/
  allowsInside : Filter → Option CallSpan → Level → String → List String → Bool
  /-- Whether a span is let through. -/
  allowsSpan : Filter → CallSpan → Bool

/-- The filters of this project. -/
instance : FilterLibrary where
  Rule := FilterRule
  Filter := Filter
  parse text := (FilterRule.parse text).toOption
  ofLevel level := ⟨⟨"", none, none⟩, some level⟩
  ofVariable := Filter.ofVariable
  complaints := Filter.complaints
  addRule := Filter.addRule
  allowsInside := Filter.allowsInside
  allowsSpan := Filter.allowsSpan

/-- A library of files in a directory, one for each day, which are made with their directories. -/
class RollingFiles where
  /-- The place of the file of a directory and a stem, with the day left open. -/
  place : (directory stem : String) → String

/-- The paths of the files, which lead straight down where they stay below the directory of the
process. -/
instance : RollingFiles where
  place directory stem :=
    let name := if stem = "" then "<date>" else stem ++ ".<date>"
    let path := (Path.ofText directory).join (Path.ofText name)
    (path.below?.getD path).text

end ObjectBridge
