import AccumulatorMachine.CommandLine.Path

/-!
# Files

The files below the working directory, each with the names that lead to it.
Names before the last one are those of directories.  Of what lies elsewhere
only directories above the working directory are known.  Names and whole paths
have a longest length in bytes.
-/

namespace AccumulatorMachine
namespace CommandLine

/-- Why a file cannot be read or written. -/
inductive FileFault
  | notFound
  | notADirectory
  | isADirectory
  | nameTooLong
  | notText
  /-- A fault that only the system can describe. -/
  | other (description : String)
  deriving DecidableEq, Repr

/-- The wording of a fault. -/
def FileFault.message : FileFault → String
  | .notFound => "No such file or directory (os error 2)"
  | .notADirectory => "Not a directory (os error 20)"
  | .isADirectory => "Is a directory (os error 21)"
  | .nameTooLong => "File name too long (os error 36)"
  | .notText => "stream did not contain valid UTF-8"
  | .other description => description

/-- One file: the names that lead to it, and its bytes. -/
structure FileEntry where
  names : List Text
  content : ByteArray

/-- All files below the working directory. -/
structure Files where
  entries : List FileEntry

/-- What a path leads to. -/
inductive Place
  | file (entry : FileEntry)
  | directory
  | vacant (names : List Text)
  /-- A name that is followed by slashes but not the name of a directory. -/
  | slashed (fault : FileFault)

namespace Files

/-- The file that some names lead to. -/
def find? (files : Files) (names : List Text) : Option FileEntry :=
  files.entries.find? fun entry => entry.names == names

/-- Whether some names lead to a directory. -/
def isDirectory (files : Files) (names : List Text) : Bool :=
  files.entries.any fun entry => names.isPrefixOf entry.names && names != entry.names

/-- The most bytes in a name. -/
def nameLimit : Nat := 255

/-- The most bytes in a path. -/
def pathLimit : Nat := 4095

/-- Follow segments from a directory: one below the working directory, given by
its names, or one above it. -/
def follow (files : Files) (directory : Option (List Text)) :
    List Text → Except FileFault Place
  | [] => .ok .directory
  | segment :: rest =>
      if Path.isIdle segment then
        files.follow directory rest
      else if segment == Path.parent then
        match directory with
        | some (name :: names) => files.follow (some (name :: names).dropLast) rest
        | _ => files.follow none rest
      else if nameLimit < Text.byteLength segment then
        .error .nameTooLong
      else
        match directory with
        | none => .error .notFound
        | some above =>
            let names := above ++ [segment]
            match files.find? names with
            | some entry =>
                if rest.isEmpty then .ok (.file entry)
                else if rest.all List.isEmpty then .ok (.slashed .notADirectory)
                else .error .notADirectory
            | none =>
                if files.isDirectory names then files.follow (some names) rest
                else if rest.isEmpty then .ok (.vacant names)
                else if rest.all List.isEmpty then .ok (.slashed .notFound)
                else .error .notFound

/-- What a path leads to. -/
def locate (files : Files) (path : Path) : Except FileFault Place :=
  if path.text.isEmpty then
    .error .notFound
  else if pathLimit < Text.byteLength path.text then
    .error .nameTooLong
  else
    files.follow (if path.isAbsolute then none else some []) path.segments

/-- The text that some bytes encode in UTF-8. -/
def decode (content : ByteArray) : Except FileFault Text :=
  match String.fromUTF8? content with
  | some text => .ok text.toList
  | none => .error .notText

/-- Read the text in a file. -/
def read (files : Files) (path : Path) : Except FileFault Text :=
  match files.locate path with
  | .ok (.file entry) => decode entry.content
  | .ok .directory => .error .isADirectory
  | .ok (.vacant _) => .error .notFound
  | .ok (.slashed fault) => .error fault
  | .error fault => .error fault

/-- The files with a text in one of them. -/
def put (files : Files) (names : List Text) (text : Text) : Files :=
  let entry : FileEntry := ⟨names, (String.ofList text).toUTF8⟩
  match files.find? names with
  | some _ =>
      ⟨files.entries.map fun other => if other.names == names then entry else other⟩
  | none => ⟨files.entries ++ [entry]⟩

/-- Write a text in a file, in place of what it held. -/
def write (files : Files) (path : Path) (text : Text) : Except FileFault Files :=
  match files.locate path with
  | .ok (.file entry) => .ok (files.put entry.names text)
  | .ok (.vacant names) => .ok (files.put names text)
  | .ok .directory => .error .isADirectory
  | .ok (.slashed _) => .error .isADirectory
  | .error fault => .error fault

end Files
end CommandLine
end AccumulatorMachine
