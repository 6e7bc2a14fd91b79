import Lox.Fault
import Lox.Text.Utf8

/-! Source files and the folder that a program is started in. A source file is read
as a whole and must be text. -/

namespace Lox

inductive ReadFault where
  | missing
  | notFolder
  | isFolder
  | nameTooLong
  | other (reason : String)
  deriving DecidableEq, Repr

def ReadFault.message : ReadFault → String
  | .missing => "No such file or directory (os error 2)"
  | .notFolder => "Not a directory (os error 20)"
  | .isFolder => "Is a directory (os error 21)"
  | .nameTooLong => "File name too long (os error 36)"
  | .other reason => reason

abbrev SourceFile := Except ReadFault (List UInt8)

def SourceFile.text? (file : SourceFile) : Except Fault String :=
  match file with
  | .error reason => .error (.device reason.message)
  | .ok bytes =>
      match Utf8.decode bytes with
      | .ok text => .ok text
      | .error flaw => .error (.encoding flaw)

inductive Entry where
  | file (bytes : List UInt8)
  | folder (entries : List (String × Entry))

/-- The entries of the folder that a program is started in, and what is typed to it. -/
structure Folder where
  entries : List (String × Entry)
  typed : List UInt8

namespace Folder

/-- The longest name of a file and the longest path, in bytes. -/
def nameLimit : Nat := 255

def pathLimit : Nat := 4095

/-- A path from a folder within others, the nearest first. A part that is empty or a
dot stays where it is, and two dots go to the enclosing folder, which for the
outermost one is itself. A file holds no others. -/
def walk (entries : List (String × Entry)) (enclosing : List (List (String × Entry))) :
    List String → SourceFile
  | [] => .error .isFolder
  | part :: rest =>
      if part = "" || part = "." then walk entries enclosing rest
      else if part = ".." then
        match enclosing with
        | [] => walk entries [] rest
        | nearest :: others => walk nearest others rest
      else if nameLimit < part.utf8ByteSize then .error .nameTooLong
      else
        match entries.lookup part with
        | none => .error .missing
        | some (.file bytes) => if rest.isEmpty then .ok bytes else .error .notFolder
        | some (.folder inner) => walk inner (entries :: enclosing) rest

/-- What every system has in its outermost folder. Of the devices, the null device is
an empty file, and another one holds what is typed. -/
def outermost (folder : Folder) : List (String × Entry) :=
  ("dev", .folder [("null", .file []), ("stdin", .file folder.typed)]) ::
    ["bin", "boot", "etc", "home", "lib", "media", "mnt", "opt", "proc", "root", "run", "sbin",
      "srv", "sys", "tmp", "usr", "var"].map fun name => (name, .folder [])

/-- The file at a path from the folder or, after a stroke, from the outermost one. The
folder is one of those for passing work, which stand together in a folder of the
outermost one; the others of them are not known. -/
def read (folder : Folder) (path : String) : SourceFile :=
  let outermost := folder.outermost
  if pathLimit < path.utf8ByteSize then .error .nameTooLong
  else if path = "" then .error .missing
  else if path.startsWith "/" then walk outermost [] (path.splitOn "/")
  else walk folder.entries [[], outermost] (path.splitOn "/")

end Folder
end Lox
