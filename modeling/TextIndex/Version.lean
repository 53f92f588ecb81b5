/-!
# Version

* `version`: the version of this library.
-/

namespace TextIndex

def version : String := "0.1.0"

end TextIndex
