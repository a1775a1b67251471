import SortBench.Program.Algorithm
import SortBench.Program.Spec

/-!
# The catalog of programs

A catalog holds specifications under their names, each name once; of several specifications
with one name the last counts. It is listed in the order of the names. The reference catalog
has two short literal programs and four that draw a thousand values from the register, three
of which sort the same values in different ways.
-/

namespace SortBench

/-- Specifications found by name. -/
structure Catalog where
  /-- The specifications. -/
  specs : List Spec

namespace Catalog

/-- Put a specification in front unless its name is taken. -/
def keepFirst (spec : Spec) (kept : List Spec) : List Spec :=
  if kept.any fun other => other.name == spec.name then kept else spec :: kept

/-- The catalog of a list of specifications; of several with one name the last counts. -/
def ofList (specs : List Spec) : Catalog :=
  { specs := specs.foldr keepFirst [] }

/-- The specifications in the order of their names. -/
def sorted (catalog : Catalog) : List Spec :=
  catalog.specs.mergeSort fun first second => !(second.name < first.name)

/-- The names in order. -/
def names (catalog : Catalog) : List Text :=
  sortedNames (catalog.specs.map Spec.name)

/-- The specification of a name. -/
def find? (catalog : Catalog) (name : Text) : Option Spec :=
  catalog.specs.find? fun spec => spec.name == name

/-- The specification of a name, or the fault that there is none, which names those that there
are. -/
def get (catalog : Catalog) (name : Text) : Except Fault Spec :=
  match catalog.find? name with
  | some spec => .ok spec
  | none => .error (.unknownProgram name catalog.names)

/-- The number of values that the reference programs draw from the register. -/
def drawnSize : Int := 1000

/-- The literal of a list of integers. -/
def literal (numbers : List Int) : Literal :=
  { first := numbers.map .integer }

/-- The reference programs. -/
def reference : Catalog :=
  ofList
    [{ name := "bubblesort"
       description := "Bubble sort over a five element literal array"
       source := "literal"
       size := 5
       literal := literal [4, 6, 2, 7, 8]
       algorithm := some "bubble" },
     { name := "bubblesort_6"
       description := "Bubble sort over a six element literal array"
       source := "literal"
       size := 6
       literal := literal [5, 7, 2, 1, 8, 10]
       algorithm := some "bubble" },
     { name := "quicksort"
       description := "Recursive quicksort over 1000 LFSR values"
       source := "lfsr"
       size := drawnSize
       algorithm := some "quick" },
     { name := "quicksort_iterative"
       description := "Work-stack quicksort over 1000 LFSR values"
       source := "lfsr"
       size := drawnSize
       algorithm := some "quick_iterative" },
     { name := "bubblesort_lfsr"
       description := "Bubble sort over 1000 LFSR values"
       source := "lfsr"
       size := drawnSize
       algorithm := some "bubble" },
     { name := "lfsr"
       description := "Fill 1000 values from the LFSR without sorting"
       source := "lfsr"
       size := drawnSize }]

end Catalog

end SortBench
