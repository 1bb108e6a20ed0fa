import Mathlib.Data.List.Induction
import Mathlib.Logic.Function.Basic
import Vignette.Store.Files

/-!
# The store's folder in a tree

The folder of a store is given as a path, and it need not be there. `FileTree.descend` tells where
names lead when all of them are folders, or what is in the way. On that rests everything that a step
does to a file of the store: the folder stands (`FolderStore.Stands`), and then a step is about the
one place of its file (`FolderStore.within`), or it is refused.

Main statements: **making folders adds folders where nothing was, and nothing else**
(`FileTree.get?_makeAlong`); **folders that are made stand** (`FileTree.descend_makeAlong`); **a file's
path leads into the folder** (`FolderStore.locate_join`); **the files for keys and the temporary files
have places of their own** (`FolderStore.spot_inj`, `FolderStore.draft_inj`,
`FolderStore.spot_ne_draft`).
-/

namespace Vignette

namespace FileTree

variable {here : Place} {t u : FileTree here} {place q : Place} {names : List (List Char)}

/-! ## 1. Along names -/

/-- The place that names lead to from a place on, when all of them are folders. -/
def descend (t : FileTree here) : Place → List (List Char) → Except SystemError Place
  | place, [] => .ok place
  | place, name :: rest =>
    match t.get? (enter place name) with
    | none => .error .notFound
    | some (.file _) => .error .notDirectory
    | some .folder => t.descend (enter place name) rest

/-- Only the last of the names need not be a folder. -/
theorem walk_append (t : FileTree here) (name : List Char) : ∀ (names : List (List Char)) (place : Place),
    t.walk place (names ++ [name]) = (t.descend place names).map (enter · name)
  | [], _ => rfl
  | first :: names, place => by
    obtain ⟨second, rest, hrest⟩ : ∃ second rest, names ++ [name] = second :: rest := by
      cases names with
      | nil => exact ⟨name, [], rfl⟩
      | cons second rest => exact ⟨second, rest ++ [name], rfl⟩
    have ih := walk_append t name names (enter place first)
    rw [hrest] at ih
    simp only [List.cons_append, hrest, walk, descend]
    cases t.get? (enter place first) with
    | none => rfl
    | some node =>
      cases node with
      | file data => rfl
      | folder => exact ih

/-- Names that lead somewhere lead where each of them does. -/
theorem eq_foldl_of_descend {p : Place} :
    ∀ {names : List (List Char)} {place : Place}, t.descend place names = .ok p →
      p = names.foldl enter place
  | [], place, h => (Except.ok.inj h).symm
  | name :: names, place, h => by
    unfold descend at h
    split at h
    · cases h
    · cases h
    · have ih : p = names.foldl enter (enter place name) := eq_foldl_of_descend h
      exact ih

/-- Where folders stay folders, names lead where they led. -/
theorem descend_of_folders (hkeep : ∀ q, t.get? q = some .folder → u.get? q = some .folder) {p : Place} :
    ∀ {names : List (List Char)} {place : Place}, t.descend place names = .ok p →
      u.descend place names = .ok p
  | [], _, h => h
  | name :: names, place, h => by
    unfold descend at h ⊢
    split at h
    · cases h
    · cases h
    · rename_i hfolder
      rw [hkeep _ hfolder]
      exact descend_of_folders hkeep h

/-- The only things in the way are a folder that is not there, and a file. -/
theorem descend_cases (t : FileTree here) : ∀ (names : List (List Char)) (place : Place),
    t.descend place names = .ok (names.foldl enter place) ∨
      t.descend place names = .error .notFound ∨ t.descend place names = .error .notDirectory
  | [], _ => .inl rfl
  | name :: names, place => by
    unfold descend
    split
    · exact .inr (.inl rfl)
    · exact .inr (.inr rfl)
    · exact descend_cases t names (enter place name)

/-! ## 2. Making folders -/

theorem ne_folder_of_none (h : t.get? q = none) : t.get? q ≠ some .folder := by
  rw [h]
  exact nofun

theorem ne_folder_of_file {data : ByteArray} (h : t.get? q = some (.file data)) :
    t.get? q ≠ some .folder := by
  rw [h]
  exact nofun

/-- A new folder adds itself and nothing else. -/
theorem get?_put_folder (h : t.get? place = none) (q : Place) :
    (t.put place .folder).get? q = t.get? q ∨
      t.get? q = none ∧ (t.put place .folder).get? q = some .folder := by
  by_cases hq : q = place
  · subst hq
    exact .inr ⟨h, get?_put_self (isAbove_of_ne_folder (ne_folder_of_none h))⟩
  · exact .inl (get?_put_of_ne hq)

/-- **Making folders adds folders where nothing was, and nothing else.** -/
theorem get?_makeAlong (q : Place) : ∀ (names : List (List Char)) (t : FileTree here) (place : Place),
    (t.makeAlong place names).2.get? q = t.get? q ∨
      t.get? q = none ∧ (t.makeAlong place names).2.get? q = some .folder
  | [], _, _ => .inl rfl
  | name :: names, t, place => by
    simp only [makeAlong]
    split
    · exact get?_makeAlong q names t _
    · exact .inl rfl
    · rename_i hnone
      rcases get?_put_folder hnone q with hput | ⟨hq, hput⟩
      · rw [← hput]
        exact get?_makeAlong q names _ _
      · rcases get?_makeAlong q names (t.put (enter place name) .folder) (enter place name) with h | h
        · exact .inr ⟨hq, h.trans hput⟩
        · exact .inr ⟨hq, h.2⟩

theorem get?_makeAlong_of_some {node : Node} (h : t.get? q = some node) :
    (t.makeAlong place names).2.get? q = some node := by
  rcases get?_makeAlong q names t place with hq | ⟨hq, -⟩
  · exact hq.trans h
  · cases h.symm.trans hq

theorem get?_eq_file_of_makeAlong {data : ByteArray}
    (h : (t.makeAlong place names).2.get? q = some (.file data)) : t.get? q = some (.file data) := by
  rcases get?_makeAlong q names t place with hq | ⟨-, hq⟩
  · exact hq.symm.trans h
  · cases hq.symm.trans h

/-- **Folders that are made stand.** -/
theorem descend_makeAlong : ∀ {names : List (List Char)} {t : FileTree here} {place : Place},
    (t.makeAlong place names).1 = .ok () →
      (t.makeAlong place names).2.descend place names = .ok (names.foldl enter place)
  | [], _, _, _ => rfl
  | name :: names, t, place, h => by
    simp only [makeAlong] at h ⊢
    split at h
    · rename_i hfolder
      rw [descend, get?_makeAlong_of_some hfolder]
      exact descend_makeAlong h
    · cases h
    · rename_i hnone
      have habove := isAbove_of_ne_folder (ne_folder_of_none hnone)
      rw [descend, get?_makeAlong_of_some (get?_put_self habove)]
      exact descend_makeAlong h

/-- Where the folders stand there is nothing to make. -/
theorem makeAlong_of_descend {p : Place} : ∀ {names : List (List Char)} {place : Place},
    t.descend place names = .ok p → t.makeAlong place names = (.ok (), t)
  | [], _, _ => rfl
  | name :: names, place, h => by
    unfold descend at h
    split at h
    · cases h
    · cases h
    · rename_i hfolder
      simp only [makeAlong, hfolder]
      exact makeAlong_of_descend h

/-- Where a file is in the way no folder can be made. -/
theorem makeAlong_of_file : ∀ {names : List (List Char)} {place : Place},
    t.descend place names = .error .notDirectory → ∃ e, t.makeAlong place names = (.error e, t)
  | [], _, h => by cases h
  | name :: names, place, h => by
    unfold descend at h
    split at h
    · cases h
    · rename_i data hfile
      simp only [makeAlong, hfile]
      exact ⟨_, rfl⟩
    · rename_i hfolder
      simp only [makeAlong, hfolder]
      exact makeAlong_of_file h

/-- Folders that stand up to a name, or up to a file, are not made again. -/
theorem makeAlong_take (n : Nat) : ∀ {names : List (List Char)} {place : Place},
    t.descend place names ≠ .error .notFound → (t.makeAlong place (names.take n)).2 = t := by
  induction n with
  | zero => exact fun _ => rfl
  | succ n ih =>
    intro names place h
    cases names with
    | nil => rfl
    | cons name names =>
      unfold descend at h
      rw [List.take_succ_cons]
      split at h
      · exact absurd rfl h
      · rename_i data hfile
        simp only [makeAlong, hfile]
      · rename_i hfolder
        simp only [makeAlong, hfolder]
        exact ih h

/-! ## 3. Paths that do not lead back -/

/-- Without two dots, names lead below a place. -/
theorem foldl_enter (h : ['.', '.'] ∉ names) (place : Place) : names.foldl enter place = place ++ names := by
  induction names generalizing place with
  | nil => exact (List.append_nil place).symm
  | cons name names ih =>
    have hname : name ≠ ['.', '.'] := fun e => h (e ▸ List.mem_cons_self)
    rw [List.foldl_cons, ih fun hm => h (List.mem_cons_of_mem _ hm), enter, if_neg hname,
      List.append_assoc, List.singleton_append]

/-- Folders that are made along names that do not lead back lie no deeper than the names do. -/
theorem get?_makeAlong_deeper : ∀ {names : List (List Char)} {t : FileTree here} {place : Place},
    ['.', '.'] ∉ names → (place ++ names).length < q.length →
      (t.makeAlong place names).2.get? q = t.get? q
  | [], _, _, _, _ => rfl
  | name :: names, t, place, h, hq => by
    have hname : name ≠ ['.', '.'] := fun e => h (e ▸ List.mem_cons_self)
    have hrest : ['.', '.'] ∉ names := fun hm => h (List.mem_cons_of_mem _ hm)
    have henter : enter place name = place ++ [name] := if_neg hname
    have hdeep : ((place ++ [name]) ++ names).length < q.length := by
      simpa only [List.append_assoc, List.singleton_append] using hq
    simp only [makeAlong, henter]
    split
    · exact get?_makeAlong_deeper hrest hdeep
    · rfl
    · rw [get?_makeAlong_deeper hrest hdeep]
      refine get?_put_of_ne ?_
      rintro rfl
      simp only [List.length_append] at hdeep
      omega

/-- Whatever is there is in a folder. -/
def Rooted (t : FileTree here) : Prop :=
  ∀ (place : Place) (name : List Char), t.get? (place ++ [name]) ≠ none → t.get? place = some .folder

/-- Only the folders that are always there are in a tree with nothing else in it. -/
theorem rooted_empty : (empty : FileTree here).Rooted := by
  intro place name hname
  by_cases habove : isAbove here (place ++ [name]) = true
  · have hplace : isAbove here place = true := by
      rw [isAbove, List.isPrefixOf_iff_prefix] at habove ⊢
      exact (List.prefix_append place [name]).trans habove
    rw [get?, if_pos hplace]
  · rw [get?, if_neg habove] at hname
    exact absurd rfl hname

/-- Something new in a folder is in a folder. -/
theorem Rooted.put (h : t.Rooted) (place : Place) (name : List Char) {node : Node}
    (hplace : t.get? place = some .folder) (hfree : t.get? (place ++ [name]) = none) :
    (t.put (place ++ [name]) node).Rooted := by
  have hkeep {q : Place} (hq : t.get? q = some .folder) : (t.put (place ++ [name]) node).get? q = some .folder := by
    refine (get?_put_of_ne ?_).trans hq
    rintro rfl
    cases hfree.symm.trans hq
  intro place' name' hname
  by_cases hnew : place' ++ [name'] = place ++ [name]
  · rw [(List.append_inj' hnew rfl).1]
    exact hkeep hplace
  · rw [get?_put_of_ne hnew] at hname
    exact hkeep (h place' name' hname)

/-- Below a place with nothing there is nothing. -/
theorem Rooted.get?_below (h : t.Rooted) (hnone : t.get? place = none) :
    ∀ below : List (List Char), t.get? (place ++ below) = none := by
  intro below
  induction below using List.reverseRecOn with
  | nil => rw [List.append_nil, hnone]
  | append_singleton below name ih =>
    cases hname : t.get? (place ++ (below ++ [name])) with
    | none => rfl
    | some node =>
      have hfolder : t.get? (place ++ below) = some .folder := by
        refine h (place ++ below) name ?_
        rw [List.append_assoc, hname]
        exact nofun
      cases ih.symm.trans hfolder

/-- No file lies where names lead, nor on the way. -/
def Clear (t : FileTree here) (place : Place) (names : List (List Char)) : Prop :=
  ∀ n data, t.get? ((names.take n).foldl enter place) ≠ some (.file data)

/-- Without a file on the way, only a folder that is not there can be in the way. -/
theorem Clear.descend_ne : ∀ {names : List (List Char)} {place : Place}, t.Clear place names →
    t.descend place names ≠ .error .notDirectory
  | [], _, _ => nofun
  | name :: names, place, h => by
    unfold descend
    split
    · exact nofun
    · rename_i data hfile
      exact absurd hfile (h 1 data)
    · exact Clear.descend_ne fun n data => h (n + 1) data

theorem Clear.makeAlong {place' : Place} {names' : List (List Char)} (h : t.Clear place names) :
    (t.makeAlong place' names').2.Clear place names := fun n data hfile =>
  h n data (get?_eq_file_of_makeAlong hfile)

/-- **Where the way to a place ends before it, and does not lead back, there is neither a file on the way
    nor anything below the place.** -/
theorem Rooted.missing (ht : t.Rooted) : ∀ {names : List (List Char)} {place : Place},
    ['.', '.'] ∉ names → t.get? place = some .folder → t.descend place names = .error .notFound →
      t.Clear place names ∧ ∀ below, t.get? (place ++ names ++ below) = none
  | [], _, _, _, h => by cases h
  | name :: names, place, hdots, hplace, h => by
    have hname : name ≠ ['.', '.'] := fun e => hdots (e ▸ List.mem_cons_self)
    have hrest : ['.', '.'] ∉ names := fun hm => hdots (List.mem_cons_of_mem _ hm)
    have henter : enter place name = place ++ [name] := if_neg hname
    have hassoc (below : Place) : place ++ name :: names ++ below = place ++ [name] ++ names ++ below := by
      simp only [List.append_assoc, List.cons_append, List.nil_append]
    unfold descend at h
    rw [henter] at h
    split at h
    · rename_i hnone
      refine ⟨fun n data => ?_, fun below => ?_⟩
      · cases n with
        | zero =>
          rw [List.take_zero, List.foldl_nil, hplace]
          exact nofun
        | succ n =>
          have hway := ht.get?_below hnone (names.take n)
          have hdotsTake : ['.', '.'] ∉ names.take n := fun hm => hrest (List.mem_of_mem_take hm)
          rw [List.take_succ_cons, List.foldl_cons, henter, foldl_enter hdotsTake, hway]
          exact nofun
      · rw [hassoc, List.append_assoc]
        exact ht.get?_below hnone _
    · cases h
    · rename_i hfolder
      obtain ⟨hclear, hbelow⟩ := Rooted.missing ht hrest hfolder h
      refine ⟨fun n data => ?_, fun below => by rw [hassoc]; exact hbelow below⟩
      cases n with
      | zero =>
        rw [List.take_zero, List.foldl_nil, hplace]
        exact nofun
      | succ n =>
        rw [List.take_succ_cons, List.foldl_cons, henter]
        exact hclear n data

end FileTree

/-! ## 4. Names of files -/

namespace Path

/-- Is the text the name of something that can be in a folder, and no way out of it? -/
structure IsPlain (name : String) : Prop where
  no_slash : '/' ∉ name.toList
  is_name : isName name.toList = true
  no_dots : name.toList ≠ ['.', '.']

theorem head?_opening (s : List Char) {c : Char} {cs : List Char} (hc : c ≠ '/') :
    ((opening s ++ c :: cs).head? == some '/') = (s.head? == some '/') := by
  unfold opening
  split
  next h =>
    cases s with
    | nil => simpa using hc
    | cons => rfl
  next h =>
    cases s with
    | nil => exact absurd (.inl rfl) h
    | cons => rfl

/-- The path of a file in a folder begins where the folder's does. -/
theorem origin_join (here : Place) (folder : Path) {name : String} (h : IsPlain name) :
    FileTree.origin here (folder.join name) = FileTree.origin here folder := by
  have habsolute : (folder.join name).isAbsolute = folder.isAbsolute := by
    rw [isAbsolute, join, String.toList_append, String.toList_ofList]
    cases hn : name.toList with
    | nil =>
      have hname := h.is_name
      rw [hn] at hname
      cases hname
    | cons c cs =>
      refine head?_opening _ fun hc => h.no_slash ?_
      rw [hn, hc]
      exact List.mem_cons_self
  rw [FileTree.origin, FileTree.origin, habsolute]

theorem getLast?_split_opening (s : List Char) {name : List Char} (h : '/' ∉ name) :
    (split (opening s ++ name)).getLast? = some name := by
  unfold opening
  split
  next hs =>
    rcases hs with rfl | hs
    · rw [List.nil_append, split_of_not_mem h]
      rfl
    · obtain ⟨t, rfl⟩ := List.getLast?_eq_some_iff.mp hs
      rw [List.append_assoc, List.singleton_append, split_append_slash, split_of_not_mem h]
      exact List.getLast?_concat
  next =>
    rw [List.append_assoc, List.singleton_append, split_append_slash, split_of_not_mem h]
    exact List.getLast?_concat

/-- The path of a file in a folder is not one that only a folder can have. -/
theorem isFolder_join (folder : Path) {name : String} (h : IsPlain name) :
    (folder.join name).isFolder = false := by
  rw [isFolder, join, String.toList_append, String.toList_ofList, getLast?_split_opening _ h.no_slash]
  have hdots : (name.toList == ['.', '.']) = false := by simpa using h.no_dots
  simp only [h.is_name, hdots, Bool.not_true, Bool.or_self]

end Path

namespace FolderStore

open FileTree (origin enter)
open Vignette.Path (IsPlain)

theorem not_slash_of_mem_key (key : Key) : '/' ∉ key.text.toList := by
  intro h
  have hvalid := key.valid
  rw [isKeyText, Bool.and_eq_true, List.all_eq_true] at hvalid
  have hdigit := hvalid.2 '/' h
  revert hdigit
  decide

theorem length_key (key : Key) : key.text.toList.length = 64 := by
  have hvalid := key.valid
  rw [isKeyText, Bool.and_eq_true, beq_iff_eq] at hvalid
  exact hvalid.1

/-- A name that begins with a key is longer than any name with a meaning of its own. -/
theorem isPlain_append (key : Key) {rest : String} (h : '/' ∉ rest.toList) :
    IsPlain (key.text ++ rest) where
  no_slash hm := by
    rw [String.toList_append, List.mem_append] at hm
    exact hm.elim (not_slash_of_mem_key key) h
  is_name := by
    have hlength : 64 ≤ (key.text ++ rest).toList.length := by
      rw [String.toList_append, List.length_append, length_key]
      exact Nat.le_add_right _ _
    cases hname : (key.text ++ rest).toList with
    | nil =>
      rw [hname] at hlength
      cases hlength
    | cons c cs =>
      rw [hname] at hlength
      cases cs with
      | nil => simp at hlength
      | cons d ds => simp [Path.isName]
  no_dots hname := by
    have hlength : (key.text ++ rest).toList.length = 2 := by rw [hname]; rfl
    rw [String.toList_append, List.length_append, length_key] at hlength
    omega

theorem isPlain_fileName (key : Key) : IsPlain (fileName key) := isPlain_append key (by decide)

theorem isPlain_temporaryName (key : Key) {token : String} (h : '/' ∉ token.toList) :
    IsPlain (temporaryName key token) := by
  have hname : temporaryName key token = key.text ++ ("." ++ token ++ ".tmp") := by
    rw [temporaryName, String.append_assoc, String.append_assoc, String.append_assoc]
  rw [hname]
  refine isPlain_append key ?_
  simp only [String.toList_append, List.mem_append, not_or]
  exact ⟨⟨by decide, h⟩, by decide⟩

theorem fileName_injective : Function.Injective fileName := by
  intro a b h
  have hlist := congrArg String.toList h
  rw [fileName, fileName, String.toList_append, String.toList_append] at hlist
  exact Key.ext_text (String.toList_inj.mp (List.append_cancel_right hlist))

theorem temporaryName_inj {a b : Key} {v w : String} (h : temporaryName a v = temporaryName b w) :
    a = b ∧ v = w := by
  have hlist := congrArg String.toList h
  simp only [temporaryName, String.toList_append] at hlist
  have hfront := List.append_cancel_right hlist
  rw [List.append_assoc, List.append_assoc] at hfront
  obtain ⟨hkey, hrest⟩ := List.append_inj hfront (by rw [length_key, length_key])
  exact ⟨Key.ext_text (String.toList_inj.mp hkey),
    String.toList_inj.mp (List.append_cancel_left hrest)⟩

/-- A file for a key is no temporary file: their names end differently. -/
theorem fileName_ne_temporaryName (a b : Key) (token : String) : fileName a ≠ temporaryName b token := by
  intro h
  have hlist := congrArg (fun name : String => name.toList.getLast?) h
  have hfile : ".thumb".toList.getLast? = some 'b' := rfl
  have htemporary : ".tmp".toList.getLast? = some 'p' := rfl
  simp only [fileName, temporaryName, String.toList_append, List.getLast?_append, hfile, htemporary,
    Option.some_or] at hlist
  cases hlist

/-! ## 5. Places in the folder -/

variable (s : FolderStore) (here : Place)

/-- The place of the folder, for a program that works in the folder `here`. -/
def home : Place := s.folder.names.foldl enter (origin here s.folder)

/-- The place of a name in the folder. -/
def within (name : String) : Place := s.home here ++ [name.toList]

/-- The place of the file for a key. -/
def spot (key : Key) : Place := s.within here (fileName key)

/-- The place of a temporary file. -/
def draft (key : Key) (token : String) : Place := s.within here (temporaryName key token)

variable {here}

/-- Where the folder's path leads. -/
def footing (t : FileTree here) : Except SystemError Place := t.descend (origin here s.folder) s.folder.names

/-- The folder is there. -/
def Stands (t : FileTree here) : Prop := s.footing t = .ok (s.home here)

variable {s}

theorem within_inj {a b : String} (h : s.within here a = s.within here b) : a = b :=
  String.toList_inj.mp (List.singleton_inj.mp (List.append_cancel_left h))

/-- Files for two keys have two places. -/
theorem spot_inj {a b : Key} (h : s.spot here a = s.spot here b) : a = b := fileName_injective (within_inj h)

/-- Temporary files with two words have two places. -/
theorem draft_inj {a b : Key} {v w : String} (h : s.draft here a v = s.draft here b w) : a = b ∧ v = w :=
  temporaryName_inj (within_inj h)

/-- The file for a key and a temporary file have two places. -/
theorem spot_ne_draft (a b : Key) (token : String) : s.spot here a ≠ s.draft here b token := fun h =>
  fileName_ne_temporaryName a b token (within_inj h)

section Steps

variable {t : FileTree here} {name : String}

/-- **A file's path leads into the folder, if that is there.** -/
theorem locate_join (t : FileTree here) (h : IsPlain name) :
    t.locate (s.folder.join name) = (s.footing t).map fun _ => s.within here name := by
  rw [FileTree.locate, Path.origin_join _ _ h, Path.names_join _ h.no_slash h.is_name,
    FileTree.walk_append, footing]
  cases hf : t.descend (origin here s.folder) s.folder.names with
  | error e => rfl
  | ok p =>
    obtain rfl : p = s.home here := FileTree.eq_foldl_of_descend hf
    exact congrArg Except.ok (if_neg h.no_dots)

theorem Stands.locate (hs : s.Stands t) (h : IsPlain name) :
    t.locate (s.folder.join name) = .ok (s.within here name) := by
  rw [locate_join t h, hs]
  rfl

/-- The folder stands when it was made. -/
theorem stands_of_makeAlong {m : FileTree here}
    (hmade : t.makeAlong (origin here s.folder) s.folder.names = (.ok (), m)) : s.Stands m := by
  have hstands := FileTree.descend_makeAlong (congrArg Prod.fst hmade)
  rwa [hmade] at hstands

/-- The folder stands as long as folders stay folders. -/
theorem Stands.mono {u : FileTree here} (hs : s.Stands t)
    (h : ∀ q, t.get? q = some .folder → u.get? q = some .folder) : s.Stands u :=
  FileTree.descend_of_folders h hs

/-- Where there is no way to the folder, its files cannot be read. -/
theorem read_of_footing {e : SystemError} (hf : s.footing t = .error e) (h : IsPlain name) :
    t.read (s.folder.join name) = .error e := by
  have hlocate : t.locate (s.folder.join name) = .error e := by rw [locate_join t h, hf]; rfl
  simp only [FileTree.read, hlocate]

/-- **A file of the folder is read from its place.** -/
theorem Stands.read (hs : s.Stands t) (h : IsPlain name) :
    t.read (s.folder.join name) =
      match t.get? (s.within here name) with
      | none => .error .notFound
      | some .folder => .error .isDirectory
      | some (.file data) => .ok data := by
  simp only [FileTree.read, hs.locate h, Path.isFolder_join _ h]
  rfl

/-- A file of the folder is not written where a folder has its name. -/
theorem Stands.write_refused (hs : s.Stands t) (h : IsPlain name)
    (hfolder : t.get? (s.within here name) = some .folder) (contents : ByteArray → ByteArray) :
    t.write (s.folder.join name) contents = (.error .isDirectory, t) := by
  simp only [FileTree.write, hs.locate h, Path.isFolder_join _ h, hfolder, Bool.false_eq_true, if_false]

/-- **A file of the folder is written in its place**, from what was in it before. -/
theorem Stands.write_done (hs : s.Stands t) (h : IsPlain name)
    (hfolder : t.get? (s.within here name) ≠ some .folder) (contents : ByteArray → ByteArray) :
    ∃ old, t.write (s.folder.join name) contents =
        (.ok (), t.put (s.within here name) (.file (contents old))) ∧
      ∀ data, t.get? (s.within here name) = some (.file data) → old = data := by
  cases hnode : t.get? (s.within here name) with
  | none =>
    refine ⟨ByteArray.empty, ?_, nofun⟩
    simp only [FileTree.write, hs.locate h, Path.isFolder_join _ h, hnode, Bool.false_eq_true, if_false]
  | some node =>
    cases node with
    | folder => exact absurd hnode hfolder
    | file old =>
      refine ⟨old, ?_, fun data hdata => by cases hdata; rfl⟩
      simp only [FileTree.write, hs.locate h, Path.isFolder_join _ h, hnode, Bool.false_eq_true, if_false]

/-- The folder stands when a file in it is written. -/
theorem Stands.put_file (hs : s.Stands t) (hfolder : t.get? (s.within here name) ≠ some .folder)
    (data : ByteArray) : s.Stands (t.put (s.within here name) (.file data)) := by
  refine hs.mono fun q hq => (FileTree.get?_put_of_ne ?_).trans hq
  rintro rfl
  exact hfolder hq

/-- A file of the folder that is there is taken from its place. -/
theorem Stands.remove_done (hs : s.Stands t) {data : ByteArray} (h : IsPlain name)
    (hfile : t.get? (s.within here name) = some (.file data)) :
    t.remove (s.folder.join name) = (.ok (), t.erase (s.within here name)) := by
  simp only [FileTree.remove, hs.locate h, hfile]

/-- **A file of the folder is taken from its place**, or nothing happens. -/
theorem Stands.remove_cases (hs : s.Stands t) (h : IsPlain name) :
    (t.remove (s.folder.join name)).2 = t ∨
      t.get? (s.within here name) ≠ some .folder ∧
        (t.remove (s.folder.join name)).2 = t.erase (s.within here name) := by
  cases hnode : t.get? (s.within here name) with
  | none => exact .inl (by simp only [FileTree.remove, hs.locate h, hnode])
  | some node =>
    cases node with
    | folder => exact .inl (by simp only [FileTree.remove, hs.locate h, hnode])
    | file data => exact .inr ⟨nofun, by rw [hs.remove_done h hnode]⟩

/-- A file of the folder does not get a name that a folder has. -/
theorem Stands.rename_refused (hs : s.Stands t) {old : String} {data : ByteArray} (h : IsPlain name)
    (ho : IsPlain old) (hfile : t.get? (s.within here old) = some (.file data))
    (hfolder : t.get? (s.within here name) = some .folder) :
    t.rename (s.folder.join old) (s.folder.join name) = (.error .isDirectory, t) := by
  simp only [FileTree.rename, hs.locate h, hs.locate ho, hfile, hfolder]

/-- **A file of the folder moves from one place to another.** -/
theorem Stands.rename_done (hs : s.Stands t) {old : String} {data : ByteArray} (h : IsPlain name)
    (ho : IsPlain old) (hfile : t.get? (s.within here old) = some (.file data))
    (hfolder : t.get? (s.within here name) ≠ some .folder) :
    t.rename (s.folder.join old) (s.folder.join name) =
      (.ok (), (t.erase (s.within here old)).put (s.within here name) (.file data)) := by
  cases hnode : t.get? (s.within here name) with
  | none => simp only [FileTree.rename, hs.locate h, hs.locate ho, hfile, hnode]
  | some node =>
    cases node with
    | folder => exact absurd hnode hfolder
    | file old' => simp only [FileTree.rename, hs.locate h, hs.locate ho, hfile, hnode]

end Steps

end FolderStore

/-- A folder to work in. -/
def workplace : Place := ["run".toList]

end Vignette
