/-!
# Matrix variables

The common variables of a matrix, with the values that are offered for them.
-/

namespace CiWorkflow

/-- A variable with the values that are offered for it. -/
structure MatrixPreset where
  name : String
  /-- What it is called. -/
  label : String
  values : List String
deriving DecidableEq

namespace MatrixPreset

def common : List MatrixPreset :=
  [⟨"node", "Node.js", ["16", "18", "20", "22"]⟩,
    ⟨"python", "Python", ["3.8", "3.9", "3.10", "3.11", "3.12", "3.13"]⟩,
    ⟨"os", "Operating System",
      ["ubuntu-latest", "ubuntu-22.04", "ubuntu-20.04", "windows-latest", "windows-2022",
        "windows-2019", "macos-latest", "macos-14", "macos-13", "macos-12"]⟩,
    ⟨"java", "Java", ["8", "11", "17", "21"]⟩,
    ⟨"go", "Go", ["1.19", "1.20", "1.21", "1.22", "1.23"]⟩,
    ⟨"ruby", "Ruby", ["3.0", "3.1", "3.2", "3.3"]⟩,
    ⟨"php", "PHP", ["8.0", "8.1", "8.2", "8.3"]⟩,
    ⟨"dotnet", ".NET", ["6.0", "7.0", "8.0"]⟩]

def find? (name : String) : Option MatrixPreset := common.find? fun p => p.name == name

def isCommon (name : String) : Bool := (find? name).isSome

end MatrixPreset

end CiWorkflow
