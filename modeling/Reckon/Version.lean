import Reckon.Settings

set_option autoImplicit false

namespace Reckon.Version

def programName : String := "calceval"

def current : String := "0.3.0"

def unknown : String := "0.0.0"

def projectFile : Files.Path := ⟨false, ["pyproject.toml"]⟩

def stated? (document : Toml.Table) : Except Settings.Failure (Option String) := do
  let project ← Settings.table document "project"
  match project.lookup "name", project.lookup "version" with
  | some (.str name), some (.str version) =>
      return if name = programName && version ≠ "" then some version else none
  | _, _ => return none

-- A project file that cannot be read or is no document states no version.
def lookUp (files : Files.Tree) (installed : Option String) : Except Settings.Failure String :=
  let otherwise := installed.getD unknown
  match Settings.readDocument files projectFile with
  | .error failure => if failure.isReported then .ok otherwise else .error failure
  | .ok document => (stated? document).map (·.getD otherwise)

end Reckon.Version
