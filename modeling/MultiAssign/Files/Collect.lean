import MultiAssign.Files.Glob
import MultiAssign.Files.Tree

/-!
# The files to check

A file that is named is checked, whatever its name; of a directory, the files with the usual endings
are, in the order of their paths, and so are the links to files that have such a name. Patterns
leave files out, by their path or by their name alone. No file is checked twice under one path.
-/

namespace MultiAssign

def sourceEndings : List String := [".rb", ".rake", ".gemspec"]

/-- A pattern matches the path as a whole or its last component. -/
def isExcluded (patterns : List String) (p : Path) : Bool :=
  patterns.any fun pattern => Glob.isMatch pattern p.text || Glob.isMatch pattern p.name

/-- The name has one of the usual endings, or is one. -/
def hasSourceName (p : Path) : Bool :=
  sourceEndings.any fun ending => ending.toList.isSuffixOf p.name.toList

namespace FileTree

/-- What a path on the command line stands for. -/
def candidates (t : FileTree) (p : Path) : List Path :=
  if t.hasFile p then [p]
  else ((t.below p).filter fun q => hasSourceName q && t.hasFile q).mergeSort Path.comesBefore

def collect (t : FileTree) (paths : List Path) (exclude : List String) : List Path :=
  ((paths.flatMap t.candidates).filter fun p => !isExcluded exclude p).eraseDups

end FileTree

end MultiAssign
