import TwinDiagram.Text.Blank

namespace TwinDiagram.Graph

def separator : String := "::"

/-- A name without outer blanks, and an underscore for each run of blanks within. -/
def segment (name : String) : String :=
  .ofList (Text.replaceBlanks '_' (Text.trim name.toList))

def identifier (tag : String) (names : List String) : String :=
  separator.intercalate (tag :: names.map segment)

/-- A dotted path of names. -/
def path (names : List String) : String := ".".intercalate (names.map segment)

end TwinDiagram.Graph
