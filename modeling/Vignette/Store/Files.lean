import Vignette.Failure
import Vignette.FileTree
import Vignette.Key

/-!
# The store in a folder

A folder keeps one file for each key, named for it. A file is never written in its place: its bytes
go to a temporary file with a name of its own, which is then renamed. So whoever reads a file of the
store finds it whole. A temporary file whose renaming fails is taken away again.

A folder that is not there is a store with nothing in it; the first write makes it.
-/

namespace Vignette

/-- The store in a folder. -/
structure FolderStore where
  folder : Path
  deriving DecidableEq

namespace FolderStore

/-- The name of the file for a key. -/
def fileName (key : Key) : String := key.text ++ ".thumb"

/-- The name of a temporary file for a key. -/
def temporaryName (key : Key) (token : String) : String := key.text ++ "." ++ token ++ ".tmp"

/-- The file for a key. -/
def pathFor (s : FolderStore) (key : Key) : Path := s.folder.join (fileName key)

/-- A temporary file for a key. -/
def temporaryPath (s : FolderStore) (key : Key) (token : String) : Path :=
  s.folder.join (temporaryName key token)

/-- What a refused step means for the store. -/
def failure (e : SystemError) : StoreFailure := .io e.message

/-- What is stored under a key. -/
def get (s : FolderStore) (key : Key) : FileProgram (Except StoreFailure (Option ByteArray)) := do
  match ← FileProgram.read (s.pathFor key) with
  | .ok data => return .ok (some data)
  | .error .notFound => return .ok none
  | .error e => return .error (failure e)

/-- The temporary file gets its place under the key, or is taken away. -/
def publish (s : FolderStore) (key : Key) (temporary : Path) :
    FileProgram (Except StoreFailure Unit) := do
  match ← FileProgram.rename temporary (s.pathFor key) with
  | .ok () => return .ok ()
  | .error e =>
    let _ ← FileProgram.remove temporary
    return .error (failure e)

/-- Bytes in pieces are stored under a key, through a temporary file that is named with a word. -/
def setPieces (s : FolderStore) (key : Key) (token : String) (pieces : List ByteArray) :
    FileProgram (Except StoreFailure Unit) := do
  match ← FileProgram.makeFolders s.folder with
  | .error e => return .error (failure e)
  | .ok () =>
    match ← FileProgram.write (s.temporaryPath key token) pieces with
    | .error e => return .error (failure e)
    | .ok () => s.publish key (s.temporaryPath key token)

/-- Bytes are stored under a key. -/
def set (s : FolderStore) (key : Key) (payload : ByteArray) :
    FileProgram (Except StoreFailure Unit) := do
  let token ← FileProgram.token
  s.setPieces key token [payload]

end FolderStore

end Vignette
