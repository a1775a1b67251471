import SortBench.Program.Catalog
import SortBench.Settings.Reader

/-!
# Sites

Everything around the program that its answers depend on: the environment variables, the
files it may read, the registered algorithms and the catalog of programs.
-/

namespace SortBench

/-- The surroundings in which commands and requests are carried out. -/
structure Site where
  /-- The environment variables. -/
  environment : Texts := []
  /-- The files, by name. -/
  files : Files := []
  /-- The algorithms. -/
  registry : Registry := .builtIn
  /-- The programs. -/
  catalog : Catalog := .reference

end SortBench
