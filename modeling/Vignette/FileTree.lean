import Vignette.Path
import Vignette.Program

/-!
# Trees of files

A tree holds files and folders by their place: the names from the root of all files on. A program works
in one of the folders, where each path begins that does not begin at the root; so a tree goes with the
place of that folder (`FileTree here`), and the folder is always there, with those that it is in.

A program changes a tree in steps (`FileStep`), each of which does one thing or fails with the
reason that the system gives (`SystemError`). `FileTree.perform` answers the steps from a tree.
-/

namespace Vignette

/-! ## 1. Failures -/

/-- Why the system refuses a step. -/
inductive SystemError
  | notFound
  | denied
  | alreadyThere
  | notDirectory
  | isDirectory
  /-- The file is no program. -/
  | notProgram
  /-- Any other reason, in the system's words. -/
  | other (message : String)
  deriving DecidableEq, Repr

/-- The system's words. -/
def SystemError.message : SystemError → String
  | notFound => "No such file or directory (os error 2)"
  | denied => "Permission denied (os error 13)"
  | alreadyThere => "File exists (os error 17)"
  | notDirectory => "Not a directory (os error 20)"
  | isDirectory => "Is a directory (os error 21)"
  | notProgram => "Exec format error (os error 8)"
  | other m => m

/-! ## 2. Steps -/

/-- One thing that is done to files. -/
inductive FileStep
  /-- Reads a whole file. -/
  | read (path : Path)
  /-- Makes a folder and the folders that it is in, as far as they are not there. -/
  | makeFolders (path : Path)
  /-- Makes a file without contents, or takes the contents of a file away. -/
  | create (path : Path)
  /-- Puts bytes behind the contents of a file. -/
  | append (path : Path) (data : ByteArray)
  /-- Gives a file another place; a file that is there is replaced. -/
  | rename (source target : Path)
  /-- Takes a file away. -/
  | remove (path : Path)
  /-- A word that is not used yet. -/
  | token

/-- What the answer to a step is. -/
abbrev FileStep.Answer : FileStep → Type
  | read _ => Except SystemError ByteArray
  | token => String
  | _ => Except SystemError Unit

/-- A program that works on files. -/
abbrev FileProgram (α : Type) : Type := Program FileStep.Answer α

namespace FileProgram

/-- The step that reads a file. -/
def read (path : Path) : FileProgram (Except SystemError ByteArray) := Program.perform (FileStep.read path)

/-- The step that makes folders. -/
def makeFolders (path : Path) : FileProgram (Except SystemError Unit) :=
  Program.perform (FileStep.makeFolders path)

/-- The step that makes an empty file. -/
def create (path : Path) : FileProgram (Except SystemError Unit) := Program.perform (FileStep.create path)

/-- The step that puts bytes behind a file. -/
def append (path : Path) (data : ByteArray) : FileProgram (Except SystemError Unit) :=
  Program.perform (FileStep.append path data)

/-- The step that gives a file another place. -/
def rename (source target : Path) : FileProgram (Except SystemError Unit) :=
  Program.perform (FileStep.rename source target)

/-- The step that takes a file away. -/
def remove (path : Path) : FileProgram (Except SystemError Unit) := Program.perform (FileStep.remove path)

/-- The step that gets a word that is not used yet. -/
def token : FileProgram String := Program.perform FileStep.token

/-- Bytes in pieces that are put behind a file, one after the other. -/
def appendAll (path : Path) : List ByteArray → FileProgram (Except SystemError Unit)
  | [] => .done (.ok ())
  | piece :: rest => do
    match ← append path piece with
    | .ok () => appendAll path rest
    | .error e => return .error e

/-- A file gets new contents, in pieces. -/
def write (path : Path) (pieces : List ByteArray) : FileProgram (Except SystemError Unit) := do
  match ← create path with
  | .ok () => appendAll path pieces
  | .error e => return .error e

end FileProgram

/-! ## 3. Trees -/

/-- The names from the root on. -/
abbrev Place := List (List Char)

/-- What is at a place. -/
inductive Node
  | folder
  | file (data : ByteArray)

/-- Files and folders by their place, for a program that works in the folder `here`; no place is named
    twice. -/
structure FileTree (here : Place) where
  nodes : List (Place × Node)

namespace FileTree

variable {here : Place}

/-- A tree with nothing in it but the folders that are always there. -/
def empty : FileTree here := ⟨[]⟩

/-- Is the place that of the folder `here`, or of one that this is in? -/
def isAbove (here place : Place) : Bool := place.isPrefixOf here

/-- What is at a place. -/
def get? (t : FileTree here) (place : Place) : Option Node :=
  if isAbove here place then some .folder else t.nodes.lookup place

/-- The tree without what is at a place. -/
def erase (t : FileTree here) (place : Place) : FileTree here := ⟨t.nodes.filter fun n => n.1 != place⟩

/-- The tree with a node at a place, whatever was there. -/
def put (t : FileTree here) (place : Place) (node : Node) : FileTree here :=
  ⟨(place, node) :: (t.erase place).nodes⟩

/-- The place that a path begins at. -/
def origin (here : Place) (p : Path) : Place := if p.isAbsolute then [] else here

/-- The place that a name leads to; two dots lead back, and at the root they lead nowhere. -/
def enter (place : Place) (name : List Char) : Place :=
  if name = ['.', '.'] then place.dropLast else place ++ [name]

/-- The place that names lead to from a place on, when all but the last of them are folders. -/
def walk (t : FileTree here) : Place → List (List Char) → Except SystemError Place
  | place, [] => .ok place
  | place, [name] => .ok (enter place name)
  | place, name :: rest =>
    match t.get? (enter place name) with
    | none => .error .notFound
    | some (.file _) => .error .notDirectory
    | some .folder => t.walk (enter place name) rest

/-- The place of a path, when all but its last name are folders. -/
def locate (t : FileTree here) (p : Path) : Except SystemError Place := t.walk (origin here p) p.names

/-- The contents of a file. -/
def read (t : FileTree here) (p : Path) : Except SystemError ByteArray :=
  match t.locate p with
  | .error e => .error e
  | .ok place =>
    match t.get? place with
    | none => .error .notFound
    | some .folder => .error .isDirectory
    | some (.file data) => if p.isFolder then .error .notDirectory else .ok data

/-- Folders at a place and along names from it, as far as they are not there. -/
def makeAlong (t : FileTree here) : Place → List (List Char) → Except SystemError Unit × FileTree here
  | _, [] => (.ok (), t)
  | place, name :: rest =>
    let place := enter place name
    match t.get? place with
    | some .folder => t.makeAlong place rest
    | some (.file _) => (.error (if rest.isEmpty then .alreadyThere else .notDirectory), t)
    | none => (t.put place .folder).makeAlong place rest

/-- A file with these contents at a path; the folders have to be there. -/
def write (t : FileTree here) (p : Path) (contents : ByteArray → ByteArray) :
    Except SystemError Unit × FileTree here :=
  match t.locate p with
  | .error e => (.error e, t)
  | .ok place =>
    if p.isFolder then (.error .isDirectory, t)
    else
      match t.get? place with
      | some .folder => (.error .isDirectory, t)
      | some (.file data) => (.ok (), t.put place (.file (contents data)))
      | none => (.ok (), t.put place (.file (contents ByteArray.empty)))

/-- The program in a file, if the system starts it: the file has to be one of those that may be run,
    and its first line has to name what runs it. -/
def program (t : FileTree here) (mayRun : Place → Bool) (p : Path) : Except SystemError ByteArray :=
  if p.text.isEmpty then .error .notFound
  else
    match t.locate p with
    | .error e => .error e
    | .ok place =>
      match t.get? place with
      | none => .error .notFound
      | some .folder => .error .denied
      | some (.file data) =>
        if p.isFolder then .error .notDirectory
        else if !mayRun place then .error .denied
        else if data.toList.take 2 = [35, 33] then .ok data
        else .error .notProgram

/-- The tree without the file at a path. -/
def remove (t : FileTree here) (p : Path) : Except SystemError Unit × FileTree here :=
  match t.locate p with
  | .error e => (.error e, t)
  | .ok place =>
    match t.get? place with
    | none => (.error .notFound, t)
    | some .folder => (.error .isDirectory, t)
    | some (.file _) => (.ok (), t.erase place)

/-- The tree with a file at another path. -/
def rename (t : FileTree here) (source target : Path) : Except SystemError Unit × FileTree here :=
  match t.locate source, t.locate target with
  | .error e, _ => (.error e, t)
  | _, .error e => (.error e, t)
  | .ok old, .ok new =>
    match t.get? old, t.get? new with
    | none, _ => (.error .notFound, t)
    | some .folder, _ => (.error .isDirectory, t)
    | _, some .folder => (.error .isDirectory, t)
    | some (.file data), _ => (.ok (), (t.erase old).put new (.file data))

/-! ## 4. Answering steps -/

/-- A tree, and how many words were given out. -/
structure Disk (here : Place) where
  tree : FileTree here
  tokens : Nat

/-- The `n`-th word: 32 hexadecimal digits. -/
def tokenText (n : Nat) : String :=
  let digits := Nat.toDigits 16 n
  String.ofList (List.replicate (32 - digits.length) '0' ++ digits)

/-- The answer to a step, and what the step leaves. -/
def perform (x : FileStep) (d : Disk here) : x.Answer × Disk here :=
  match x with
  | .read p => (d.tree.read p, d)
  | .makeFolders p =>
    let (r, t) := d.tree.makeAlong (origin here p) p.names
    (r, { d with tree := t })
  | .create p =>
    let (r, t) := d.tree.write p fun _ => ByteArray.empty
    (r, { d with tree := t })
  | .append p data =>
    let (r, t) := d.tree.write p fun old => old ++ data
    (r, { d with tree := t })
  | .rename source target =>
    let (r, t) := d.tree.rename source target
    (r, { d with tree := t })
  | .remove p =>
    let (r, t) := d.tree.remove p
    (r, { d with tree := t })
  | .token => (tokenText d.tokens, { d with tokens := d.tokens + 1 })

/-! ## 5. What is at a place -/

theorem lookup_filter_self (nodes : List (Place × Node)) (place : Place) :
    (nodes.filter fun n => n.1 != place).lookup place = none := by
  induction nodes with
  | nil => rfl
  | cons n nodes ih =>
    obtain ⟨spot, node⟩ := n
    by_cases hn : spot = place
    · simp only [List.filter_cons, hn, bne_self_eq_false, Bool.false_eq_true, if_false, ih]
    · have h1 : (place == spot) = false := by simpa using fun e : place = spot => hn e.symm
      have h2 : (spot != place) = true := by simpa using hn
      simp only [List.filter_cons, h2, if_true, List.lookup_cons, h1, ih]

theorem lookup_filter_of_ne (nodes : List (Place × Node)) {place other : Place}
    (h : other ≠ place) : (nodes.filter fun n => n.1 != place).lookup other = nodes.lookup other := by
  induction nodes with
  | nil => rfl
  | cons n nodes ih =>
    obtain ⟨spot, node⟩ := n
    by_cases hn : spot = place
    · have h1 : (other == spot) = false := by simpa [hn] using h
      simp only [List.filter_cons, hn, bne_self_eq_false, Bool.false_eq_true, if_false, ih,
        List.lookup_cons, hn ▸ h1]
    · have h2 : (spot != place) = true := by simpa using hn
      simp only [List.filter_cons, h2, if_true, List.lookup_cons, ih]

section Nodes

variable {t : FileTree here} {place other : Place} {node : Node}

/-- A path begins at a folder. -/
theorem get?_origin (t : FileTree here) (p : Path) : t.get? (origin here p) = some .folder := by
  have habove : isAbove here (origin here p) = true := by
    rw [isAbove, List.isPrefixOf_iff_prefix, origin]
    split
    · exact List.nil_prefix
    · exact List.prefix_rfl
  rw [get?, if_pos habove]

/-- Where no folder is, there is none that is always there. -/
theorem isAbove_of_ne_folder (h : t.get? place ≠ some .folder) : isAbove here place = false := by
  cases habove : isAbove here place with
  | false => rfl
  | true =>
    rw [get?, if_pos habove] at h
    exact absurd rfl h

theorem get?_erase_self (h : isAbove here place = false) : (t.erase place).get? place = none := by
  simp [get?, h, erase, lookup_filter_self]

theorem get?_erase_of_ne (h : other ≠ place) : (t.erase place).get? other = t.get? other := by
  simp [get?, erase, lookup_filter_of_ne _ h]

/-- **A node that is put to a place is there.** -/
theorem get?_put_self (h : isAbove here place = false) : (t.put place node).get? place = some node := by
  simp [get?, put, h]

/-- **A node that is put to a place changes no other place.** -/
theorem get?_put_of_ne (h : other ≠ place) : (t.put place node).get? other = t.get? other := by
  rw [← get?_erase_of_ne (t := t) h]
  have ho : (other == place) = false := by simpa using h
  simp [get?, put, List.lookup_cons, ho]

end Nodes

end FileTree

end Vignette
