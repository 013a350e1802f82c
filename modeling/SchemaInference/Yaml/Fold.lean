/-
This file folds the gaps inside scalars. A gap consists of spaces, tabs and line breaks.
-/

import SchemaInference.Yaml.Character

namespace SchemaInference.Yaml

def isBroken (gap : List Char) : Bool :=
  gap.any isBreak

/-- A line feed alone becomes a space, and a line feed before other breaks is dropped. -/
def foldBreaks : List Char → List Char
  | ['\n'] => [' ']
  | '\n' :: more => more
  | breaks => breaks

/-- Only the breaks of a gap count if it has any. -/
def foldGap (gap : List Char) : List Char :=
  if isBroken gap then foldBreaks (gap.filter isBreak) else gap

/-- A backslash in a gap stands for an escaped line break. All breaks after it stay. -/
def foldEscapedGap (gap : List Char) : List Char :=
  foldGap (gap.takeWhile (· != '\\')) ++ (gap.dropWhile (· != '\\')).filter isBreak

end SchemaInference.Yaml
