import DegreeAudit.Encoding.Utf8
import DegreeAudit.Json.Reader
import DegreeAudit.Storage.FileTree
import DegreeAudit.Text.Newline

namespace DegreeAudit

/-!
Text and documents in files. A text file is UTF-8 throughout, and each way to end a line in it
counts as a line feed; a document is read from such a text.
-/

/-- Why no text is read from a file. -/
inductive TextFault where
  | file (fault : FileFault)
  | notText (fault : Encoding.Fault)
  deriving DecidableEq, Repr

/-- The wording of the fault. -/
def TextFault.message : TextFault -> String
  | .file fault => fault.message
  | .notText fault => fault.message

/-- The problem with the path itself, if that is why no text is read. -/
def TextFault.ofPath? : TextFault -> Option FileFault
  | .file fault => if fault.isFound then none else some fault
  | .notText _ => none

/-- The text that bytes hold, its lines ended by line feeds. -/
def textOfBytes (bytes : List UInt8) : Except Encoding.Fault (List Char) :=
  (Encoding.Utf8.decode bytes).map Text.unifyNewlines

/-- The bytes of a content; the pages of a document are no bytes. -/
def Content.toBytes : Content -> List UInt8
  | .bytes content => content
  | .pages _ => []

/-- Why no document is read from a file. -/
inductive DocumentFault where
  | text (fault : TextFault)
  | json (fault : Json.Fault)
  deriving DecidableEq, Repr

/-- The wording of the fault. -/
def DocumentFault.message : DocumentFault -> String
  | .text fault => fault.message
  | .json fault => fault.message

namespace FileTree

/-- The text of the file at a path. -/
def readText (files : FileTree) (path : Path) : Except TextFault (List Char) :=
  match files.read path with
  | .error fault => .error (.file fault)
  | .ok content =>
      match textOfBytes content.toBytes with
      | .error fault => .error (.notText fault)
      | .ok text => .ok text

/-- The document in the file at a path. -/
def readDocument (files : FileTree) (path : Path) : Except DocumentFault Json :=
  match files.readText path with
  | .error fault => .error (.text fault)
  | .ok text =>
      match Json.read text with
      | .error fault => .error (.json fault)
      | .ok document => .ok document

end FileTree
end DegreeAudit
