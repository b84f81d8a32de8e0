import ReturnPaths.Config.Basic
import ReturnPaths.Glob

/-!
# Excluded files

A path below the directory that is walked is left out if one of the exclude patterns covers it:

* as a glob pattern that matches the whole path or its file name, or
* as a directory, if the pattern ends in a slash: the rest of the pattern, between slashes, occurs
  in the path, or the path starts with it.

A pattern that is no well-formed glob matches nothing as a glob and may still name a directory.

* `Config.isExcluded` : whether some pattern covers a path.
-/

namespace ReturnPaths

/-- Whether a list occurs in another one without gaps. -/
def occursIn (part : List Char) : List Char → Bool
  | [] => part.isEmpty
  | c :: rest => part.isPrefixOf (c :: rest) || occursIn part rest

/-- The directory that a pattern names, if it ends in a slash. -/
def patternDirectory? (pattern : String) : Option (List Char) :=
  match pattern.toList.reverse with
  | '/' :: rest => some (rest.dropWhile (· == '/')).reverse
  | _ => none

/-- Whether a path lies below a directory of this name. -/
def liesBelow (directory : List Char) (path : List Char) : Bool :=
  occursIn ('/' :: directory ++ ['/']) path || (directory ++ ['/']).isPrefixOf path

/-- Whether a pattern covers a path. -/
def patternCovers (pattern : String) (path : Path) : Bool :=
  Glob.matchesText pattern path.text
    || path.fileName?.any (Glob.matchesText pattern)
    || (patternDirectory? pattern).any fun directory => liesBelow directory path.text.toList

/-- Whether a path is left out. -/
def Config.isExcluded (config : Config) (path : Path) : Bool :=
  config.exclude.any fun pattern => patternCovers pattern path

end ReturnPaths
