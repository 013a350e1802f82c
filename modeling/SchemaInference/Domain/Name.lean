/-
This file reads domain names.
-/

import SchemaInference.Domain.Bidirectional
import SchemaInference.Domain.Label
import SchemaInference.Text.Cut

namespace SchemaInference.Domain

/-- A name is the list of its labels, in lower case and decoded. -/
abbrev Name := List Label

namespace Name

def isDirected (name : Name) : Bool :=
  !name.any (·.any isRightward) || name.all Domain.isDirected

/-- Dots separate the labels after the mapping. Labels may be empty. -/
def read? (text : List Char) : Option Name := do
  let name ← (Text.cutAt '.' (Unicode.normalize (map text))).mapM Label.decode?
  if name.all Label.isValid && isDirected name then some name else none

/-- A name without text is one empty label. -/
def hasText (name : Name) : Bool :=
  name != [[]]

end Name

end SchemaInference.Domain
