import Vignette.Proofs.Store.Folder
import Vignette.Proofs.Url.Form

/-!
# Keys as names of files

A key is a text of a fixed shape wherever it comes from (`Key.IsName`), and that makes it safe as the name
of a file. The shape may as well be looked for in the bytes of the text: a character beyond ASCII has
bytes of its own and so never passes for a digit (`Key.isName_iff_bytes`).

In the folder of a store, a key's file has its place directly below the folder, and neither the file of
another key nor a temporary file has the same one. The last is true of every word in a temporary name: it
may hold slashes and points, the path still ends otherwise (`Path.end_names`).

Main statement: **a text is a key just if it has the shape, and then it is taken as it is; the files of
keys lie in the folder of their store, apart from each other and from all temporary files**
(`key_names_file`).
-/

namespace Vignette

/-! ## 1. Bytes beyond ASCII -/

namespace Text

/-- A character beyond ASCII has a byte beyond ASCII. -/
theorem exists_byte_of_char {c : Char} (h : 127 < c.toNat) :
    ∃ b ∈ String.utf8EncodeChar c, 128 ≤ b.toNat := by
  obtain ⟨b, rest, hbytes, hfirst⟩ := exists_first_byte c
  refine ⟨b, hbytes ▸ List.mem_cons_self, ?_⟩
  by_contra hsmall
  have hc := hfirst (Nat.lt_of_not_le hsmall)
  have hascii : ∀ n : Fin 128, (Char.ofNat n.val).toNat = n.val := by decide
  have hback := hascii ⟨b.toNat, Nat.lt_of_not_le hsmall⟩
  rw [hc] at h
  dsimp only at hback
  omega

/-- **Where all bytes of a text are within ASCII, so are its characters.** -/
theorem ascii_of_bytes {s : List Char} (h : ∀ b ∈ encodeUtf8 s, b.toNat < 128) :
    ∀ c ∈ s, c.toNat ≤ 127 := by
  intro c hc
  by_contra hlarge
  obtain ⟨b, hb, hbyte⟩ := exists_byte_of_char (Nat.lt_of_not_le hlarge)
  have hmem : b ∈ encodeUtf8 s := by
    rw [encodeUtf8_eq]
    exact List.mem_flatMap.mpr ⟨c, hc, hb⟩
  have hsmall := h b hmem
  omega

/-- A text within ASCII has one byte for each character. -/
theorem encodeUtf8_of_ascii {s : List Char} (h : ∀ c ∈ s, c.toNat ≤ 127) :
    encodeUtf8 s = s.map fun c => UInt8.ofNat c.toNat := by
  induction s with
  | nil => exact encodeUtf8_nil
  | cons c s ih =>
    rw [List.forall_mem_cons] at h
    rw [encodeUtf8_cons h.1, ih h.2, List.map_cons]

end Text

/-! ## 2. The shape of keys -/

namespace Key

/-- Sixty-four characters, each a decimal digit or one of the letters `a` to `f`. -/
def IsName (s : String) : Prop :=
  s.length = 64 ∧ ∀ c ∈ s.toList, ('0' ≤ c ∧ c ≤ '9') ∨ ('a' ≤ c ∧ c ≤ 'f')

/-- The same of a byte: the digits and the letters `a` to `f` of ASCII. -/
def IsNameByte (b : UInt8) : Prop := (0x30 ≤ b ∧ b ≤ 0x39) ∨ (0x61 ≤ b ∧ b ≤ 0x66)

section Name

variable {s : String} {c : Char} {key : Key}

theorem isName_iff : IsName s ↔ isKeyText s.toList = true := by
  simp [IsName, isKeyText, Digest.isDigit, String.length_toList]

/-- The type of keys holds texts of the shape and no others. -/
theorem isName_text (key : Key) : IsName key.text := isName_iff.mpr key.valid

/-- A character within ASCII has the shape just if its byte has. -/
theorem isNameByte_iff (h : c.toNat ≤ 127) :
    IsNameByte (UInt8.ofNat c.toNat) ↔ ('0' ≤ c ∧ c ≤ '9') ∨ ('a' ≤ c ∧ c ≤ 'f') := by
  have hbyte : (UInt8.ofNat c.toNat).toNat = c.toNat := Text.toNat_ofNat (by omega)
  simp only [IsNameByte, UInt8.le_iff_toNat_le, hbyte]
  rfl

theorem toNat_lt_of_isNameByte {b : UInt8} (h : IsNameByte b) : b.toNat < 128 := by
  simp only [IsNameByte, UInt8.le_iff_toNat_le] at h
  have hnine : (0x39 : UInt8).toNat = 57 := rfl
  have hf : (0x66 : UInt8).toNat = 102 := rfl
  omega

theorem toNat_le_of_isName (h : ('0' ≤ c ∧ c ≤ '9') ∨ ('a' ≤ c ∧ c ≤ 'f')) : c.toNat ≤ 127 := by
  rcases h with ⟨-, h⟩ | ⟨-, h⟩
  · exact Nat.le_trans (show c.toNat ≤ 57 from h) (by decide)
  · exact Nat.le_trans (show c.toNat ≤ 102 from h) (by decide)

/-- **The shape can be looked for in the bytes**: there are sixty-four, and each has it. -/
theorem isName_iff_bytes (s : String) :
    IsName s ↔ s.toUTF8.toList.length = 64 ∧ ∀ b ∈ s.toUTF8.toList, IsNameByte b := by
  rw [Text.toList_toUTF8]
  constructor
  · rintro ⟨hlength, hall⟩
    have hascii : ∀ c ∈ s.toList, c.toNat ≤ 127 := fun c hc => toNat_le_of_isName (hall c hc)
    rw [Text.encodeUtf8_of_ascii hascii, List.length_map, String.length_toList]
    refine ⟨hlength, fun b hb => ?_⟩
    obtain ⟨c, hc, rfl⟩ := List.mem_map.mp hb
    exact (isNameByte_iff (hascii c hc)).mpr (hall c hc)
  · rintro ⟨hlength, hall⟩
    have hascii := Text.ascii_of_bytes fun b hb => toNat_lt_of_isNameByte (hall b hb)
    rw [Text.encodeUtf8_of_ascii hascii] at hlength hall
    rw [List.length_map, String.length_toList] at hlength
    refine ⟨hlength, fun c hc => ?_⟩
    exact (isNameByte_iff (hascii c hc)).mp (hall _ (List.mem_map_of_mem hc))

theorem parse_of_isName (h : IsName s) : parse s = .ok ⟨s, isName_iff.mp h⟩ := by
  rw [parse, parse?, dif_pos (isName_iff.mp h)]

theorem parse_of_not_isName (h : ¬ IsName s) : parse s = .error (.invalidKey s) := by
  rw [parse, parse?, dif_neg fun hkey => h (isName_iff.mpr hkey)]

/-- **A text is taken as a key just if it has the shape, and it is taken as it is.** -/
theorem parse_eq_ok_iff : parse s = .ok key ↔ IsName s ∧ key.text = s := by
  constructor
  · intro h
    by_cases hname : IsName s
    · rw [parse_of_isName hname] at h
      cases h
      exact ⟨hname, rfl⟩
    · rw [parse_of_not_isName hname] at h
      cases h
  · rintro ⟨hname, rfl⟩
    exact parse_of_isName hname

/-- **Every other text is refused and quoted.** -/
theorem parse_eq_error_iff {e : StoreFailure} : parse s = .error e ↔ ¬ IsName s ∧ e = .invalidKey s := by
  constructor
  · intro h
    by_cases hname : IsName s
    · rw [parse_of_isName hname] at h
      cases h
    · rw [parse_of_not_isName hname] at h
      cases h
      exact ⟨hname, rfl⟩
  · rintro ⟨hname, rfl⟩
    exact parse_of_not_isName hname

end Name

end Key

/-! ## 3. Ends of paths -/

namespace Path

/-- The last piece of a text ends as the text does. -/
theorem exists_split_concat {c : Char} (hc : c ≠ '/') : ∀ s : List Char,
    ∃ front last, split (s ++ [c]) = front ++ [last ++ [c]]
  | [] => ⟨[], [], by simp [split, hc]⟩
  | d :: s => by
    obtain ⟨front, last, hsplit⟩ := exists_split_concat hc s
    by_cases hd : d = '/'
    · exact ⟨[] :: front, last, by simp [split, hd, hsplit]⟩
    · cases front with
      | nil => exact ⟨[], d :: last, by simp [split, hd, hsplit]⟩
      | cons piece front => exact ⟨(d :: piece) :: front, last, by simp [split, hd, hsplit]⟩

/-- **The last name of a path ends as the path does**, if that is with neither a slash nor a point. -/
theorem end_names {p : Path} {s : List Char} {c : Char} (hslash : c ≠ '/') (hpoint : c ≠ '.')
    (h : p.text.toList = s ++ [c]) : (p.names.getLast?).bind List.getLast? = some c := by
  obtain ⟨front, last, hsplit⟩ := exists_split_concat hslash s
  have hname : isName (last ++ [c]) = true := by
    cases last with
    | nil => simp [isName, hpoint]
    | cons d last => simp [isName]
  rw [names, h, hsplit, List.filter_append, List.filter_cons_of_pos hname, List.filter_nil,
    List.getLast?_concat]
  exact List.getLast?_concat

/-- `p` is the path of something directly in a folder: it begins where the folder's path does, has one
    name more, and that name leads to no other folder. -/
structure IsChild (folder p : Path) (name : String) : Prop where
  origin : ∀ here, FileTree.origin here p = FileTree.origin here folder
  names : p.names = folder.names ++ [name.toList]
  plain : IsPlain name

theorem isChild_join (folder : Path) {name : String} (h : IsPlain name) :
    IsChild folder (folder.join name) name where
  origin here := origin_join here folder h
  names := names_join folder h.no_slash h.is_name
  plain := h

end Path

/-! ## 4. Files of keys -/

namespace FolderStore

variable (s : FolderStore)

/-- Wherever the folder's path leads, the file's leads one name further. -/
theorem locate_pathFor {here : Place} (t : FileTree here) (key : Key) :
    t.locate (s.pathFor key) = (s.footing t).map (· ++ [(fileName key).toList]) := by
  rw [pathFor, locate_join t (isPlain_fileName key)]
  cases hf : s.footing t with
  | error e => rfl
  | ok p =>
    obtain rfl : p = s.home here := FileTree.eq_foldl_of_descend hf
    rfl

theorem names_pathFor (key : Key) : (s.pathFor key).names = s.folder.names ++ [(fileName key).toList] :=
  (Path.isChild_join s.folder (isPlain_fileName key)).names

/-- **Two keys have files of two names.** -/
theorem names_pathFor_inj {a b : Key} (h : (s.pathFor a).names = (s.pathFor b).names) : a = b := by
  rw [names_pathFor, names_pathFor] at h
  exact fileName_injective (String.toList_inj.mp (List.singleton_inj.mp (List.append_cancel_left h)))

/-- What a joined path ends with. -/
theorem toList_text_join (folder : Path) (name : String) :
    (folder.join name).text.toList = Path.opening folder.text.toList ++ name.toList := by
  rw [Path.join, String.toList_append, String.toList_ofList]

/-- **No temporary name is the name of a key's file**, whatever word is in it. -/
theorem names_temporaryPath_ne (a b : Key) (word : String) :
    (s.temporaryPath a word).names ≠ (s.pathFor b).names := by
  intro h
  have htemporary : ((s.temporaryPath a word).names.getLast?).bind List.getLast? = some 'p' := by
    refine Path.end_names (s := Path.opening s.folder.text.toList ++
      (a.text.toList ++ ('.' :: (word.toList ++ ['.', 't', 'm'])))) (by decide) (by decide) ?_
    rw [temporaryPath, toList_text_join, temporaryName]
    simp [String.toList_append]
  have hfile : ((s.pathFor b).names.getLast?).bind List.getLast? = some 'b' := by
    refine Path.end_names (s := Path.opening s.folder.text.toList ++
      (b.text.toList ++ ['.', 't', 'h', 'u', 'm'])) (by decide) (by decide) ?_
    rw [pathFor, toList_text_join, fileName]
    simp [String.toList_append]
  rw [h, hfile] at htemporary
  cases htemporary

end FolderStore

/-- **Keys name files.** Every derived key has the shape of a key and is taken back from its text. A text
    is a key just if it has the shape, which its bytes tell as well as its characters; every other text is
    refused and quoted. In every store, the file of a key lies directly in the folder, wherever that is;
    two keys have two files; and none of them is a temporary file, whatever key and word that is named
    with. -/
theorem key_names_file (s : FolderStore) :
    (∀ kind digest window thumb, Key.IsName (Key.derive kind digest window thumb).text ∧
      Key.parse (Key.derive kind digest window thumb).text = .ok (Key.derive kind digest window thumb)) ∧
    (∀ text key, Key.parse text = .ok key ↔ Key.IsName text ∧ key.text = text) ∧
    (∀ text e, Key.parse text = .error e ↔ ¬ Key.IsName text ∧ e = .invalidKey text) ∧
    (∀ text : String, Key.IsName text ↔
      text.toUTF8.toList.length = 64 ∧ ∀ b ∈ text.toUTF8.toList, Key.IsNameByte b) ∧
    (∀ key, s.folder.IsChild (s.pathFor key) (key.text ++ ".thumb") ∧
      ∀ (here : Place) (t : FileTree here), t.locate (s.pathFor key) =
        (s.footing t).map (· ++ [(key.text ++ ".thumb").toList])) ∧
    (∀ a b, (s.pathFor a).names = (s.pathFor b).names ↔ a = b) ∧
    ∀ a b word, (s.temporaryPath a word).names ≠ (s.pathFor b).names := by
  refine ⟨fun kind digest window thumb => ?_, fun text key => Key.parse_eq_ok_iff,
    fun text e => Key.parse_eq_error_iff, Key.isName_iff_bytes, fun key => ?_, fun a b => ?_,
    s.names_temporaryPath_ne⟩
  · have hname := Key.isName_text (Key.derive kind digest window thumb)
    exact ⟨hname, Key.parse_eq_ok_iff.mpr ⟨hname, rfl⟩⟩
  · exact ⟨Path.isChild_join s.folder (FolderStore.isPlain_fileName key), fun _ t => s.locate_pathFor t key⟩
  · exact ⟨s.names_pathFor_inj, fun h => h ▸ rfl⟩

end Vignette
