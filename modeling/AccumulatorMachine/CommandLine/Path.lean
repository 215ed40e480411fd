import AccumulatorMachine.Text.Blank

/-!
# Paths

A path is a text with slashes between its segments.  The last name on a path,
unless it leads to a parent directory, is that of a file; what follows its last
dot is its extension, except that a name may start with a dot of its own.
-/

namespace AccumulatorMachine
namespace CommandLine

/-- The path of a file. -/
structure Path where
  text : Text
  deriving DecidableEq, Repr

namespace Path

/-- The path as it is shown. -/
def shown (path : Path) : String :=
  String.ofList path.text

/-- What stands between the slashes. -/
def segments (path : Path) : List Text :=
  path.text.splitOn '/'

/-- Whether a segment stays where it is. -/
def isIdle (segment : Text) : Bool :=
  segment == [] || segment == ['.']

/-- The segment that leads to the parent directory. -/
def parent : Text := ['.', '.']

/-- The segments that lead somewhere. -/
def names (path : Path) : List Text :=
  path.segments.filter fun segment => !isIdle segment

/-- The name of the file. -/
def fileName? (path : Path) : Option Text :=
  path.names.getLast?.filter fun name => name != parent

/-- A name up to its last dot and the extension after that dot, if the dot is
not the first character. -/
def splitName (name : Text) : Text × Option Text :=
  let extension := (name.reverse.takeWhile (· != '.')).reverse
  match (name.reverse.dropWhile (· != '.')).reverse.dropLast with
  | [] => (name, none)
  | stem => (stem, some extension)

/-- The extension of the file. -/
def extension? (path : Path) : Option Text :=
  path.fileName?.bind fun name => (splitName name).2

/-- The path cut off after the last dot of its file name, if that has an
extension. -/
def withoutExtension (path : Path) : Path :=
  match path.extension? with
  | none => path
  | some extension => ⟨path.text.take (path.text.length - extension.length)⟩

/-- The path with an extension after its file name, in place of what follows the
last dot there.  A path that leads to no file stays as it is. -/
def extend (path : Path) (extension : Text) : Path :=
  match path.fileName? with
  | none => path
  | some name =>
      let before := (path.segments.reverse.dropWhile isIdle).reverse.dropLast
      ⟨List.intercalate ['/'] (before ++ [(splitName name).1 ++ '.' :: extension])⟩

/-- The path with another extension.  The old one goes first, so that a name of
two dots and an extension is left as the parent directory, which takes none. -/
def withExtension (path : Path) (extension : Text) : Path :=
  path.withoutExtension.extend extension

/-- Whether a path starts at the root of the file system. -/
def isAbsolute (path : Path) : Bool :=
  path.text.head? == some '/'

end Path
end CommandLine
end AccumulatorMachine
