import BufferedStreams.Fault

/-!
# Open modes

A mode string starts with `r`, `w` or `a`.  After that, in any order, `+` asks for both
directions, `b` for binary and `x` for exclusive creation; every other character is ignored.
-/

namespace BufferedStreams

/-- the directions a stream is open for -/
inductive Access where
  | readOnly
  | writeOnly
  | readWrite
  deriving DecidableEq, Repr

/-- what a mode string asks for -/
structure OpenMode where
  access : Access
  /-- make the file if it is missing -/
  create : Bool := false
  /-- drop what the file holds -/
  truncate : Bool := false
  append : Bool := false
  /-- the file must not exist yet -/
  exclusive : Bool := false
  binary : Bool := false
  deriving DecidableEq, Repr

namespace OpenMode

/-- both directions and nothing else -/
def both : OpenMode := { access := .readWrite }

def isReadable (m : OpenMode) : Bool := m.access != .writeOnly
def isWritable (m : OpenMode) : Bool := m.access != .readOnly

/-- what the first character of a mode string asks for -/
def ofBase? : Char → Option OpenMode
  | 'r' => some { access := .readOnly }
  | 'w' => some { access := .writeOnly, create := true, truncate := true }
  | 'a' => some { access := .writeOnly, create := true, append := true }
  | _ => none

/-- what a later character adds -/
def modify (m : OpenMode) : Char → OpenMode
  | '+' => { m with access := .readWrite }
  | 'b' => { m with binary := true }
  | 'x' => { m with exclusive := true }
  | _ => m

/-- reads the characters of a mode string -/
def parseChars : List Char → Except Fault OpenMode
  | [] => .error (.invalid .emptyMode)
  | c :: rest =>
    match ofBase? c with
    | none => .error (.invalid .unknownMode)
    | some m => .ok (rest.foldl modify m)

def parse (text : String) : Except Fault OpenMode := parseChars text.toList

end OpenMode

end BufferedStreams
