/-!
# Paths

Paths are `/`-separated strings. An absolute path starts with `/`. Joining a path onto a
base replaces the base when the path is absolute, and otherwise puts one `/` between them
unless the base is empty or already ends in `/`; `.` and `..` are kept as written. So
`join "/base" ""` is `/base/`.

Relative settings are read from a home directory; an empty or relative home is itself read
from the directory of the program.
-/

namespace Breadbox.Path

/-- Whether a path starts at the root. -/
def isAbsolute (p : String) : Bool := p.startsWith "/"

/-- `rel` read from `base`. -/
def join (base rel : String) : String :=
  if isAbsolute rel then rel
  else if base.isEmpty || base.endsWith "/" then base ++ rel
  else base ++ "/" ++ rel

/-- `rel` read from the directory `base`; an empty or relative `base` is read from the
program's directory `exeDir`. -/
def resolveWithBase (exeDir base rel : String) : String :=
  if isAbsolute rel then rel
  else if base.isEmpty then join exeDir rel
  else if isAbsolute base then join base rel
  else join (join exeDir base) rel

end Breadbox.Path
