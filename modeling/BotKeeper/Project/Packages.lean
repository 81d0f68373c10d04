/-
# Installed packages

Which required packages a listing of npm does not show as installed.  A line shows a
package as installed if one of its words starts with the name and an at sign, unless the
line says that the package is not there.
-/
import BotKeeper.Text.Blank

namespace BotKeeper.Packages

/-- Whether a line of a listing speaks of a package that is not there. -/
def isUnmet (line : List Char) : Bool :=
  Text.occursIn "UNMET".toList line || "missing".toList.isSuffixOf (Text.trimEndChars line)

/-- Whether a line shows `package` as installed. -/
def shows (package : String) (line : List Char) : Bool :=
  !isUnmet line && (Text.words line).any ((package ++ "@").toList.isPrefixOf ·)

/-- Whether a listing shows `package` as installed. -/
def isInstalled (listing package : String) : Bool :=
  (Text.lines listing.toList).any (shows package)

/-- The required packages that a listing does not show, in order. -/
def missing (listing : String) (required : List String) : List String :=
  required.filter fun package => !isInstalled listing package

end BotKeeper.Packages
