import Tradespeak.Table
import Tradespeak.Text.Quoted
import Tradespeak.Text.Utf8

/-!
# Files in a working directory

* `FileStore` — the files and folders by their path from the working directory.
* `FileStore.find` — what a name given by the user leads to, walking through folders, `.` and `..`.
* `FileStore.openRead`, `openWrite`, `openAppend` — the effect of opening a file: a file opened for
  writing loses its content, and one that is not there comes into being.
* `OsError` — why a file cannot be opened, with its message.
-/

set_option autoImplicit false

namespace Tradespeak

/-- What a file holds: a text, or bytes that are none. -/
inductive Content where
  | text (held : Text)
  | raw (bytes : List UInt8)
  deriving DecidableEq, Repr

/-- The content that consists of the bytes: a text if they are one. -/
def Content.ofBytes (bytes : List UInt8) : Content :=
  match Utf8.read bytes with
  | (held, none) => .text held
  | (_, some _) => .raw bytes

/-- The text that a content begins with, and the fault that ends it, if any. -/
def Content.read : Content → Text × Option Utf8.Fault
  | text held => (held, none)
  | raw bytes => Utf8.read bytes

/-- The content with a text after it. -/
def Content.append : Content → Text → Content
  | text held, added => .text (held ++ added)
  | raw bytes, added => .raw (bytes ++ added.flatMap String.utf8EncodeChar)

/-- What is found under a path. -/
inductive Entry where
  | folder
  | file (content : Content)
  deriving DecidableEq, Repr

/-- Files and folders by their path from the working directory. -/
abbrev FileStore := Table Entry

/-- Why a file cannot be opened. -/
inductive OsError where
  | missing
  | notDirectory
  | isDirectory
  | nameTooLong
  /-- The name holds the character that ends names. -/
  | nulInName
  deriving DecidableEq, Repr

/-- The error for a name in words. -/
def OsError.message (name : Text) : OsError → Text
  | missing => "[Errno 2] No such file or directory: ".toList ++ name.quoted
  | notDirectory => "[Errno 20] Not a directory: ".toList ++ name.quoted
  | isDirectory => "[Errno 21] Is a directory: ".toList ++ name.quoted
  | nameTooLong => "[Errno 36] File name too long: ".toList ++ name.quoted
  | nulInName => "embedded null byte".toList

namespace FileStore

/-- The parts of a name between its slashes. -/
def components : Text → List Text
  | [] => [[]]
  | c :: rest =>
    if c = '/' then [] :: components rest
    else
      match components rest with
      | [] => [[c]]
      | first :: later => (c :: first) :: later

/-- The path of an entry in a folder. The path of the working directory is empty, that of the root
is a slash. -/
def childPath (folder name : Text) : Text :=
  if folder = [] ∨ folder = ['/'] then folder ++ name else folder ++ '/' :: name

/-- The component `..`. -/
def upwards : Text := ['.', '.']

/-- The path of the folder that holds a folder. The root holds itself, and what holds the working
directory is known by `..` alone. -/
def parentPath (folder : Text) : Text :=
  if folder = ['/'] then ['/']
  else
    let components := components folder
    if folder = [] ∨ components.getLast? = some upwards then childPath folder upwards
    else if components.dropLast = [[]] then ['/']
    else Text.joinWith ['/'] components.dropLast

/-- The number of bytes of a name. -/
def byteLength (name : Text) : Nat := (String.ofList name).utf8ByteSize

/-- What a name leads to. -/
inductive Target where
  | folder
  | file (path : Text) (content : Content)
  /-- Nothing yet, in a folder that exists. -/
  | vacant (path : Text)
  /-- No folder, though the name ends with a slash as only those of folders do. The error tells why
  there is none; who would create the file is told first that the name is that of a folder. -/
  | noFolder (error : OsError)
  deriving DecidableEq, Repr

/-- What a name leads to if something that is no folder stands before the components: an error, which
is put off if the name merely ends with a slash, all components being empty. -/
def slashed (rest : List Text) (error : OsError) : Except OsError Target :=
  if rest ≠ [] ∧ rest.all (fun later => later.isEmpty) then .ok (.noFolder error)
  else .error error

/-- What components lead to from a folder. -/
def walk (store : FileStore) (folder : Text) : List Text → Except OsError Target
  | [] => .ok .folder
  | component :: rest =>
    if component = [] ∨ component = ['.'] then walk store folder rest
    else if component = upwards then walk store (parentPath folder) rest
    else if 255 < byteLength component then slashed rest .nameTooLong
    else
      let path := childPath folder component
      match store.get? path with
      | some .folder => walk store path rest
      | some (.file content) =>
        if rest = [] then .ok (.file path content) else slashed rest .notDirectory
      | none => if rest = [] then .ok (.vacant path) else slashed rest .missing

/-- The path of the folder where a name starts: the root or the working directory. -/
def start (name : Text) : Text := if name.head? = some '/' then ['/'] else []

/-- What a name leads to from the working directory. -/
def find (store : FileStore) (name : Text) : Except OsError Target :=
  if '\x00' ∈ name then .error .nulInName
  else if name = [] then .error .missing
  else if 4096 ≤ byteLength name then .error .nameTooLong
  else walk store (start name) (components name)

/-- The paths that a name leads through, from the first component to the last, if all of them but
the last are folders. -/
def trail (name : Text) : List Text :=
  ((components name).foldl
    (fun (path, passed) component =>
      if component = [] ∨ component = ['.'] then (path, passed)
      else
        let next := if component = upwards then parentPath path else childPath path component
        (next, passed ++ [next]))
    (start name, [])).2

/-- The path of the file of that name, if it can be read. -/
def openRead (store : FileStore) (name : Text) : Except OsError Text :=
  match store.find name with
  | .error error => .error error
  | .ok .folder => .error .isDirectory
  | .ok (.file path _) => .ok path
  | .ok (.noFolder error) => .error error
  | .ok (.vacant _) => .error .missing

/-- The path of the file of that name, and the store in which it holds this content if it is new. An
old file keeps its content or loses it, as the flag says. -/
def openFor (store : FileStore) (name : Text) (keep : Bool) : Except OsError (Text × FileStore) :=
  match store.find name with
  | .error error => .error error
  | .ok .folder | .ok (.noFolder _) => .error .isDirectory
  | .ok (.vacant path) => .ok (path, store.insert path (.file (.text [])))
  | .ok (.file path _) => .ok (path, if keep then store else store.insert path (.file (.text [])))

/-- The path of the file of that name, and the store in which it is empty. -/
def openWrite (store : FileStore) (name : Text) : Except OsError (Text × FileStore) :=
  store.openFor name false

/-- The path of the file of that name, and the store in which it exists. -/
def openAppend (store : FileStore) (name : Text) : Except OsError (Text × FileStore) :=
  store.openFor name true

/-- What the file with that path holds. -/
def content (store : FileStore) (path : Text) : Content :=
  match store.get? path with
  | some (.file content) => content
  | _ => .text []

/-- The store with a text put after what the file with that path holds. -/
def append (store : FileStore) (path added : Text) : FileStore :=
  if added = [] then store
  else store.insert path (.file ((store.content path).append added))

end FileStore

end Tradespeak
