import AquariumControl.Proofs.Spaces
import AquariumControl.Storage.Card

/-!
# Values in files

On a card a value is a file in the directory of its space.  For names that are plain, that is names
that a directory and a file can have, this makes the card a map from pairs.

* `Volume.walk_append`, `Volume.makeDirectories_append` — paths are followed piece by piece.
* `Card.Mounted` — the card's directory is there; `Card.Mounted.locate_path` and
  `Card.Mounted.makeParents_path` — where the path of a value leads from it.
* `Card.Tidy` — below the directory there is nothing in the way: no file where a space has its
  directory, no directory where a value has its file.
* `Card.Tidy.write` and `Card.Tidy.delete` — what one call does to every place of the volume.
* `Card.tells` — so a tidy card is a map from pairs of plain names.
-/

set_option autoImplicit false

namespace AquariumControl

namespace Place

theorem child_inj {p q : Place} {name name' : String} :
    p.child name = q.child name' ↔ p = q ∧ name = name' := by
  refine ⟨fun h => ?_, by rintro ⟨rfl, rfl⟩; rfl⟩
  have hnames : name :: p.names = name' :: q.names := congrArg names h
  obtain ⟨hname, hrest⟩ := List.cons.inj hnames
  exact ⟨ext_names hrest, hname⟩

theorem child_ne_root (p : Place) (name : String) : p.child name ≠ root := by
  intro h
  have hdepth : p.depth + 1 = 0 := congrArg depth h
  omega

theorem child_ne_grandchild (p : Place) (name space file : String) :
    p.child name ≠ (p.child space).child file := by
  intro h
  have hdepth : p.depth + 1 = p.depth + 1 + 1 := congrArg depth h
  omega

end Place

namespace Volume

/-! ## Paths as text -/

theorem components_slash (directory rest : String) :
    components (directory ++ "/" ++ rest) = components directory ++ components rest := by
  have hlist : (directory ++ "/" ++ rest).toList = directory.toList ++ '/' :: rest.toList := by simp
  simp only [components_eq, hlist, List.splitOn_append_cons_self, List.map_append]

theorem components_of_not_mem {name : String} (h : '/' ∉ name.toList) :
    components name = [name] := by
  rw [components_eq, List.splitOn_eq_singleton h, List.map_singleton, String.ofList_toList]

theorem ofComponents_components (path : String) : ofComponents (components path) = path := by
  refine String.toList_inj.mp ?_
  have hid : String.toList ∘ String.ofList = id := funext fun _ => String.toList_ofList
  rw [ofComponents, components_eq, String.toList_intercalate, List.map_map, hid, List.map_id]
  exact List.intercalate_splitOn '/'

/-- A name that a file or a directory can have. -/
structure IsName (name : String) : Prop where
  ne_empty : name ≠ ""
  ne_dot : name ≠ "."
  ne_dots : name ≠ ".."
  short : name.utf8ByteSize ≤ nameLimit
  noSlash : '/' ∉ name.toList
  noNul : '\x00' ∉ name.toList

theorem IsName.isIdle {name : String} (h : IsName name) : isIdle name = false := by
  simp [Volume.isIdle, h.ne_empty, h.ne_dot]

/-- A name leads from a directory to what has that name in it. -/
theorem IsName.step {name : String} (h : IsName name) (here : Place) :
    step here name = .ok (here.child name) := by
  rw [Volume.step, h.isIdle, if_neg Bool.false_ne_true, if_neg h.ne_dots,
    if_neg (Nat.not_lt.mpr h.short)]

theorem check_eq_ok {path : String} (hnul : '\x00' ∉ path.toList)
    (hshort : path.utf8ByteSize ≤ pathLimit) : check path = .ok () := by
  rw [check, String.contains_char_eq, decide_eq_false hnul, if_neg Bool.false_ne_true,
    if_neg (by omega)]

/-- A name is put behind a directory, with a slash between them unless there is one already. -/
theorem join_name {name : String} (h : IsName name) (directory : String) :
    join directory name =
      if directory.endsWith "/" then directory ++ name else directory ++ "/" ++ name := by
  have hrelative : isAbsolute name = false := by
    rw [isAbsolute, ← Bool.not_eq_true, String.startsWith_string_iff]
    exact fun hfront => h.noSlash (hfront.subset List.mem_cons_self)
  rw [join, hrelative, if_neg Bool.false_ne_true]

/-! ## Following paths -/

theorem walk_append (v : Volume) (here : Place) (front rest : List String) :
    v.walk here (front ++ rest) =
      match v.walk here front with
      | .error e => .error e
      | .ok there => v.walk there rest := by
  induction front generalizing here with
  | nil => rfl
  | cons name front ih =>
    rw [List.cons_append, walk, walk]
    split
    · rfl
    · rfl
    · cases step here name with
      | error e => rfl
      | ok there => exact ih there

theorem walk_cons_eq_ok {v : Volume} {here there : Place} {name : String} {rest : List String} :
    v.walk here (name :: rest) = .ok there ↔
      v.node? here = some .directory ∧
        ∃ next, step here name = .ok next ∧ v.walk next rest = .ok there := by
  rw [walk]
  cases v.node? here with
  | none => simp
  | some node =>
    cases node with
    | file bytes => simp
    | directory => cases step here name <;> simp

/-- What is walked through was a directory, and so was the start if the end is one. -/
theorem node?_of_walk {v : Volume} {here there : Place} {names : List String}
    (h : v.walk here names = .ok there) (hthere : v.node? there = some .directory) :
    v.node? here = some .directory := by
  cases names with
  | nil =>
    cases h
    exact hthere
  | cons name rest => exact (walk_cons_eq_ok.mp h).1

/-- A path leads to the same place as long as the directories on it stay. -/
theorem walk_of_directories_stay {v v' : Volume}
    (hstay : ∀ p, v.node? p = some .directory → v'.node? p = some .directory) {here there : Place}
    {names : List String} (h : v.walk here names = .ok there) : v'.walk here names = .ok there := by
  induction names generalizing here with
  | nil => exact h
  | cons name rest ih =>
    obtain ⟨hnode, next, hstep, hrest⟩ := walk_cons_eq_ok.mp h
    exact walk_cons_eq_ok.mpr ⟨hstay here hnode, next, hstep, ih hrest⟩

/-- Nothing is made on the way to a directory that is there. -/
theorem makeDirectories_append {v : Volume} {here there : Place} {front : List String}
    (h : v.walk here front = .ok there) (hthere : v.node? there = some .directory) (made : Bool)
    (rest : List String) :
    v.makeDirectories made here (front ++ rest) = v.makeDirectories made there rest := by
  induction front generalizing here with
  | nil =>
    cases h
    rfl
  | cons name front ih =>
    obtain ⟨-, next, hstep, hfront⟩ := walk_cons_eq_ok.mp h
    rw [List.cons_append, makeDirectories]
    simp only [hstep, node?_of_walk hfront hthere]
    exact ih hfront

end Volume

/-! ## The paths of values -/

/-- A key whose file has a name, and in which there is no separator of texts on flash. -/
structure PlainKey (key : String) : Prop where
  short : key.utf8ByteSize ≤ 251
  noSlash : '/' ∉ key.toList
  noColon : ':' ∉ key.toList
  noNul : '\x00' ∉ key.toList

/-- A space that can be a directory, with a key in it that can be a file. -/
structure Plain (space key : String) : Prop where
  space : Volume.IsName space
  key : PlainKey key

theorem PlainKey.isName {key : String} (h : PlainKey key) : Volume.IsName (key ++ ".cfg") where
  ne_empty := by simp
  ne_dot := fun heq => by
    have hlast := congrArg (fun s => s.toList.getLast?) heq
    simp at hlast
  ne_dots := fun heq => by
    have hlast := congrArg (fun s => s.toList.getLast?) heq
    simp at hlast
  short := by
    have hsize : ".cfg".utf8ByteSize = 4 := rfl
    have := h.short
    rw [String.utf8ByteSize_append, Volume.nameLimit]
    omega
  noSlash := by simpa using h.noSlash
  noNul := by simpa using h.noNul

namespace Card

open Volume

variable {c : Card} {base : Place} {space key : String}

/-- The card's directory is there, and its path is short enough for names to follow. -/
structure Mounted (c : Card) (base : Place) : Prop where
  located : c.volume.walk .root (components c.mount) = .ok base
  directory : c.volume.node? base = some .directory
  noNul : '\x00' ∉ c.mount.toList
  short : c.mount.utf8ByteSize + 512 ≤ pathLimit

/-- Where the file of a value is. -/
def file (base : Place) (space key : String) : Place :=
  (base.child space).child (key ++ ".cfg")

theorem node?_child (v : Volume) (p : Place) (name : String) :
    v.node? (p.child name) = v.nodes.get? (p.child name) :=
  if_neg (p.child_ne_root name)

theorem node?_file (v : Volume) (base : Place) (space key : String) :
    v.node? (file base space key) = v.nodes.get? (file base space key) :=
  node?_child v _ _

theorem file_ne_space (base : Place) (space key space' : String) :
    file base space key ≠ base.child space' :=
  (base.child_ne_grandchild space' space (key ++ ".cfg")).symm

theorem file_inj {space' key' : String} :
    file base space key = file base space' key' ↔ space = space' ∧ key = key' := by
  rw [file, file, Place.child_inj, Place.child_inj, String.append_left_inj]
  simp only [true_and]

/-- The path of the card's directory without a slash at its end, so that the path of a space is this
one with the space behind a slash. -/
structure Trunk (c : Card) (base : Place) (trunk : String) : Prop where
  directory : ∀ {space}, IsName space → c.directory space = trunk ++ "/" ++ space
  located : c.volume.walk .root (components trunk) = .ok base
  noNul : '\x00' ∉ trunk.toList
  short : trunk.utf8ByteSize + 512 ≤ pathLimit

theorem Mounted.exists_trunk (h : Mounted c base) : ∃ trunk, Trunk c base trunk := by
  by_cases hends : c.mount.endsWith "/" = true
  · have hdirectory : ∀ {space}, IsName space → c.directory space = c.mount ++ space :=
      fun hname => by rw [Card.directory, join_name hname, if_pos hends]
    rw [String.endsWith_eq_endsWith_toSlice, String.Slice.endsWith_string_iff,
      String.copy_toSlice] at hends
    obtain ⟨trunk, htrunk⟩ := hends
    have hmount : c.mount = String.ofList trunk ++ "/" := by
      refine String.toList_inj.mp ?_
      rw [String.toList_append, String.toList_ofList, htrunk]
    refine ⟨String.ofList trunk, ?_, ?_, ?_, ?_⟩
    · intro space hname
      rw [hdirectory hname, hmount]
    · -- behind the last slash there is nothing, which leads nowhere else
      have hlocated := h.located
      have hempty : c.mount = String.ofList trunk ++ "/" ++ "" := by
        rw [hmount, String.append_empty]
      rw [hempty, components_slash, walk_append] at hlocated
      cases hwalk : c.volume.walk .root (components (String.ofList trunk)) with
      | error e =>
        rw [hwalk] at hlocated
        cases hlocated
      | ok there =>
        rw [hwalk, components_of_not_mem (show '/' ∉ "".toList from List.not_mem_nil)] at hlocated
        obtain ⟨-, next, hstep, hnext⟩ := walk_cons_eq_ok.mp hlocated
        cases hstep
        exact hnext
    · have hnul := h.noNul
      rw [hmount, String.toList_append] at hnul
      exact fun hmem => hnul (List.mem_append_left _ hmem)
    · have hshort := h.short
      rw [hmount, String.utf8ByteSize_append] at hshort
      omega
  · exact ⟨c.mount, fun hname => by rw [Card.directory, join_name hname, if_neg hends],
      h.located, h.noNul, h.short⟩

namespace Trunk

variable {trunk : String} (ht : Trunk c base trunk)
include ht

/-- The path of a value is that of its space with the file behind it. -/
theorem path_eq (h : Plain space key) :
    c.path space key = trunk ++ "/" ++ space ++ "/" ++ (key ++ ".cfg") := by
  have hends : ¬(c.directory space).endsWith "/" = true := by
    rw [String.endsWith_eq_endsWith_toSlice, String.Slice.endsWith_string_iff,
      String.copy_toSlice, ht.directory h.space, String.toList_append]
    rintro ⟨front, hfront⟩
    -- the last character is one of the space
    have hne : space.toList ≠ [] := fun hnil => h.space.ne_empty (String.toList_eq_nil_iff.mp hnil)
    have hlast := congrArg List.getLast? hfront
    rw [List.getLast?_append, List.getLast?_append,
      List.getLast?_eq_some_getLast hne] at hlast
    have hslash : '/' = space.toList.getLast hne := Option.some.inj hlast
    exact h.space.noSlash (hslash ▸ List.getLast_mem hne)
  rw [Card.path, join_name h.key.isName, if_neg hends, ht.directory h.space]

theorem components_directory (h : IsName space) :
    components (c.directory space) = components trunk ++ [space] := by
  rw [ht.directory h, components_slash, components_of_not_mem h.noSlash]

theorem components_path (h : Plain space key) :
    components (c.path space key) = components trunk ++ [space, key ++ ".cfg"] := by
  rw [ht.path_eq h, components_slash, components_slash, components_of_not_mem h.space.noSlash,
    components_of_not_mem h.key.isName.noSlash, List.append_assoc]
  rfl

theorem check_path (h : Plain space key) : check (c.path space key) = .ok () := by
  refine check_eq_ok ?_ ?_
  · rw [ht.path_eq h]
    simp [ht.noNul, h.space.noNul, h.key.noNul]
  · have hspace := h.space.short
    have hkey := h.key.isName.short
    have hshort := ht.short
    have hslash : "/".utf8ByteSize = 1 := rfl
    simp only [ht.path_eq h, String.utf8ByteSize_append, nameLimit] at hspace hkey ⊢
    omega

theorem check_directory (h : IsName space) : check (c.directory space) = .ok () := by
  refine check_eq_ok ?_ ?_
  · rw [ht.directory h]
    simp [ht.noNul, h.noNul]
  · have hspace := h.short
    have hshort := ht.short
    have hslash : "/".utf8ByteSize = 1 := rfl
    simp only [ht.directory h, String.utf8ByteSize_append, nameLimit] at hspace ⊢
    omega

/-- The directory that holds the file of a value is that of its space. -/
theorem parent_path (h : Plain space key) :
    parent (c.path space key) = components (c.directory space) := by
  rw [parent, ht.components_path h, ht.components_directory h.space,
    List.append_cons, List.dropLast_concat, List.reverse_append, List.reverse_singleton,
    List.singleton_append, List.dropWhile_cons, h.space.isIdle, if_neg Bool.false_ne_true]
  simp

end Trunk

namespace Mounted

variable (hm : Mounted c base)
include hm

/-- **Where the path of a value leads**: to its file, if the directory of its space is there. -/
theorem locate_path (h : Plain space key) :
    c.volume.locate (c.path space key) =
      match c.volume.node? (base.child space) with
      | none => .error .absent
      | some (.file _) => .error .notDirectory
      | some .directory => .ok (file base space key) := by
  obtain ⟨trunk, ht⟩ := hm.exists_trunk
  rw [locate, ht.check_path h, ht.components_path h]
  simp only [walk_append, ht.located]
  rw [walk, hm.directory]
  simp only [h.space.step]
  rw [walk]
  rcases c.volume.node? (base.child space) with _ | _ | _
  · rfl
  · rfl
  · simp only [h.key.isName.step]
    rfl

/-- **What is made for the path of a value**: the directory of its space, unless it is there. -/
theorem makeParents_path (h : Plain space key) :
    c.volume.makeParents (c.path space key) =
      match c.volume.node? (base.child space) with
      | none => (.ok (), ⟨c.volume.nodes.put (base.child space) .directory⟩)
      | some (.file _) => (.error .alreadyThere, c.volume)
      | some .directory => (.ok (), c.volume) := by
  obtain ⟨trunk, ht⟩ := hm.exists_trunk
  rw [makeParents, ht.parent_path h, ofComponents_components, ht.check_directory h.space,
    ht.components_directory h.space]
  simp only [makeDirectories_append ht.located hm.directory]
  rw [makeDirectories]
  simp only [h.space.step]
  rcases c.volume.node? (base.child space) with _ | _ | _ <;> rfl

/-- Writing to a path replaces the file, if the directory of its space is there and no directory is
in the place of the file. -/
theorem writeFile_path (h : Plain space key)
    (hspace : c.volume.nodes.get? (base.child space) = some .directory)
    (hfile : c.volume.nodes.get? (file base space key) ≠ some .directory) (bytes : List UInt8) :
    c.volume.writeFile (c.path space key) bytes =
      (.ok (), ⟨c.volume.nodes.put (file base space key) (.file bytes)⟩) := by
  rw [writeFile, hm.locate_path h, node?_child, hspace]
  simp only [node?_file]

/-- The card stays mounted as long as its directories stay. -/
theorem of_directories_stay {c' : Card} (hmount : c'.mount = c.mount)
    (hstay : ∀ p, c.volume.nodes.get? p = some .directory →
      c'.volume.nodes.get? p = some .directory) : Mounted c' base := by
  have hnodes : ∀ p, c.volume.node? p = some .directory → c'.volume.node? p = some .directory := by
    intro p hp
    rw [node?] at hp ⊢
    split
    · rfl
    · next hroot => exact hstay p (by rwa [if_neg hroot] at hp)
  exact ⟨hmount ▸ walk_of_directories_stay hnodes hm.located, hnodes base hm.directory,
    hmount ▸ hm.noNul, hmount ▸ hm.short⟩

end Mounted

/-! ## A card with nothing in the way -/

/-- Below the card's directory there is nothing in the way of a value: where a space has its
directory there is no file, where a value has its file there is no directory, and a file is in the
directory of its space. -/
structure Tidy (base : Place) (c : Card) : Prop extends Mounted c base where
  spaces : ∀ {space}, IsName space → ∀ bytes,
    c.volume.nodes.get? (base.child space) ≠ some (.file bytes)
  files : ∀ {space key}, Plain space key →
    c.volume.nodes.get? (file base space key) ≠ some .directory
  above : ∀ {space key}, Plain space key → ∀ {bytes},
    c.volume.nodes.get? (file base space key) = some (.file bytes) →
      c.volume.nodes.get? (base.child space) = some .directory

/-- The value in the file of a pair. -/
def value (base : Place) (c : Card) (space key : String) : Option (List UInt8) :=
  (c.volume.nodes.get? (file base space key)).bind fun
    | .file bytes => some bytes
    | .directory => none

/-- What becomes of a card when a value is put into the file of a pair, or the file is removed: it
has the file, and the directory for it, and all else is as it was. -/
structure Filed (base : Place) (space key : String) (new : Option (List UInt8)) (c c' : Card) :
    Prop where
  mount : c'.mount = c.mount
  get? : ∀ p, c'.volume.nodes.get? p =
    if p = file base space key then new.map Node.file
    else if p = base.child space ∧ new.isSome = true then some .directory
    else c.volume.nodes.get? p

namespace Filed

variable {c' : Card} {new : Option (List UInt8)} (hf : Filed base space key new c c')
include hf

theorem get?_space (space' : String) :
    c'.volume.nodes.get? (base.child space') =
      if space' = space ∧ new.isSome = true then some .directory
      else c.volume.nodes.get? (base.child space') := by
  rw [hf.get?, if_neg (file_ne_space _ _ _ _).symm]
  exact if_congr (and_congr_left fun _ => Place.child_inj.trans (and_iff_right rfl)) rfl rfl

theorem get?_file (space' key' : String) :
    c'.volume.nodes.get? (file base space' key') =
      if space' = space ∧ key' = key then new.map Node.file
      else c.volume.nodes.get? (file base space' key') := by
  rw [hf.get?]
  exact if_congr file_inj rfl (if_neg fun hdir => file_ne_space _ _ _ _ hdir.1)

theorem value (space' key' : String) :
    Card.value base c' space' key' =
      if space' = space ∧ key' = key then new else Card.value base c space' key' := by
  rw [Card.value, hf.get?_file]
  split
  · cases new <;> rfl
  · rfl

/-- The card is as tidy as it was. -/
theorem tidy (hp : Plain space key) (h : Tidy base c) : Tidy base c' := by
  refine ⟨h.of_directories_stay hf.mount fun p hdir => ?_, ?_, ?_, ?_⟩
  · rw [hf.get?, if_neg, hdir, ite_self]
    rintro rfl
    exact h.files hp hdir
  · intro space' hname bytes
    rw [hf.get?_space]
    split
    · exact nofun
    · exact h.spaces hname bytes
  · intro space' key' hp'
    rw [hf.get?_file]
    split
    · cases new <;> exact nofun
    · exact h.files hp'
  · intro space' key' hp' bytes hbytes
    rw [hf.get?_file] at hbytes
    rw [hf.get?_space]
    split at hbytes
    · next heq =>
      obtain ⟨bytes, rfl, -⟩ := Option.map_eq_some_iff.mp hbytes
      exact if_pos ⟨heq.1, rfl⟩
    · rw [h.above hp' hbytes, ite_self]

end Filed

/-- A freshly mounted card: its directory is there, and below it there is nothing. -/
def Fresh (c : Card) : Prop :=
  ∃ base, Mounted c base ∧
    ∀ p : Place, base.names <:+ p.names → p ≠ base → c.volume.nodes.get? p = none

theorem fresh_empty : empty.Fresh := by
  have hcomponents : components empty.mount = ["", "sdcard"] := by
    rw [components_eq]
    decide
  refine ⟨Place.root.child "sdcard", ⟨?_, rfl, by decide, by decide⟩, fun p _ hne => ?_⟩
  · rw [hcomponents]
    rfl
  · exact (Table.get?_put _ _ _ _).trans (if_neg hne)

theorem Fresh.tidy (h : Fresh c) :
    ∃ base, Tidy base c ∧ ∀ space key, value base c space key = none := by
  obtain ⟨base, hm, hnothing⟩ := h
  have hspace : ∀ space, c.volume.nodes.get? (base.child space) = none := by
    intro space
    refine hnothing _ (List.suffix_cons _ _) fun heq => ?_
    have hdepth : base.depth + 1 = base.depth := congrArg Place.depth heq
    omega
  have hfile : ∀ space key, c.volume.nodes.get? (file base space key) = none := by
    intro space key
    refine hnothing _ ((List.suffix_cons _ _).trans (List.suffix_cons _ _)) fun heq => ?_
    have hdepth : base.depth + 1 + 1 = base.depth := congrArg Place.depth heq
    omega
  refine ⟨base, ⟨hm, ?_, ?_, ?_⟩, fun space key => by rw [value, hfile, Option.bind_none]⟩
  · intro space _ bytes
    rw [hspace]
    exact nofun
  · intro space key _
    rw [hfile]
    exact nofun
  · intro space key _ bytes hsome
    rw [hfile] at hsome
    cases hsome

namespace Tidy

variable (h : Tidy base c)
include h

/-- Where there is no directory for a space there is no file. -/
theorem file_eq_none (hp : Plain space key)
    (hspace : c.volume.nodes.get? (base.child space) = none) :
    c.volume.nodes.get? (file base space key) = none := by
  rcases hfile : c.volume.nodes.get? (file base space key) with _ | bytes | _
  · rfl
  · rw [h.above hp hfile] at hspace
    cases hspace
  · exact absurd hfile (h.files hp)

/-- **Reading the file of a value** gives the value, if there is one. -/
theorem readFile_path (hp : Plain space key) :
    c.volume.readFile (c.path space key) =
      match value base c space key with
      | none => .error .absent
      | some bytes => .ok bytes := by
  rw [readFile, h.locate_path hp, node?_child, value]
  rcases hspace : c.volume.nodes.get? (base.child space) with _ | bytes | _
  · rw [h.file_eq_none hp hspace]
    rfl
  · exact absurd hspace (h.spaces hp.space bytes)
  · simp only [node?_file]
    rcases hfile : c.volume.nodes.get? (file base space key) with _ | bytes | _
    · rfl
    · rfl
    · exact absurd hfile (h.files hp)

/-- **Writing the file of a value** succeeds, and the value is then in it. -/
theorem write (hp : Plain space key) (bytes : List UInt8) :
    (c.write space key bytes).answer = .ok () ∧
      Filed base space key (some bytes) c (c.write space key bytes).state := by
  rw [Card.write, h.makeParents_path hp, node?_child]
  rcases hspace : c.volume.nodes.get? (base.child space) with _ | old | _
  · -- the directory is made first
    let made : Card := { c with volume := ⟨c.volume.nodes.put (base.child space) .directory⟩ }
    have hget : ∀ p, made.volume.nodes.get? p =
        if p = base.child space then some .directory else c.volume.nodes.get? p :=
      fun p => Table.get?_put _ _ _ _
    have hmade : Mounted made base := by
      refine h.of_directories_stay rfl fun p hdir => ?_
      rw [hget, hdir, ite_self]
    have hwrite := hmade.writeFile_path hp (by rw [hget, if_pos rfl])
      (by rw [hget, if_neg (file_ne_space _ _ _ _)]; exact h.files hp) bytes
    have hpath : c.path space key = made.path space key := rfl
    have hput : (⟨c.volume.nodes.put (base.child space) .directory⟩ : Volume) = made.volume := rfl
    simp only [hpath, hput, hwrite]
    refine ⟨trivial, rfl, fun p => (Table.get?_put _ _ _ _).trans ?_⟩
    rw [hget]
    exact if_congr Iff.rfl rfl (if_congr (and_iff_left rfl).symm rfl rfl)
  · exact absurd hspace (h.spaces hp.space old)
  · simp only [h.writeFile_path hp hspace (h.files hp) bytes]
    refine ⟨trivial, rfl, fun p => (Table.get?_put _ _ _ _).trans ?_⟩
    split
    · rfl
    · split
      · next hdir => rw [hdir.1, hspace]
      · rfl

/-- **Deleting the file of a value** succeeds, whether it was there or not, and then it is not. -/
theorem delete (hp : Plain space key) :
    (c.delete space key).answer = .ok () ∧
      Filed base space key none c (c.delete space key).state := by
  -- when nothing is deleted there was nothing
  have hnothing : c.volume.nodes.get? (file base space key) = none →
      Filed base space key none c c := by
    refine fun hnone => ⟨rfl, fun p => ?_⟩
    split
    · next hfile => rw [hfile, hnone, Option.map_none]
    · exact (if_neg fun hdir => Bool.false_ne_true hdir.2).symm
  rw [Card.delete, removeFile, h.locate_path hp, node?_child]
  rcases hspace : c.volume.nodes.get? (base.child space) with _ | old | _
  · exact ⟨rfl, hnothing (h.file_eq_none hp hspace)⟩
  · exact absurd hspace (h.spaces hp.space old)
  · simp only [node?_file]
    rcases hfile : c.volume.nodes.get? (file base space key) with _ | bytes | _
    · exact ⟨rfl, hnothing hfile⟩
    · refine ⟨rfl, rfl, fun p => (Table.get?_erase _ _ _).trans (if_congr Iff.rfl rfl ?_)⟩
      exact (if_neg fun hdir => Bool.false_ne_true hdir.2).symm
    · exact absurd hfile (h.files hp)

end Tidy

/-- **A tidy card is a map from pairs** of plain names. -/
theorem tells (base : Place) : Storage.Tells Plain (Tidy base) (value base) where
  answer := fun {c call} h hp => by
    cases call with
    | read space key capacity =>
      show MediumAnswer.found (c.read space key capacity).1 =
        .found (Storage.copy (value base c space key) capacity)
      rw [Card.read, h.readFile_path (show Plain space key from hp)]
      cases value base c space key <;> rfl
    | holds space key =>
      show MediumAnswer.whether (c.holds space key) = .whether (value base c space key).isSome
      rw [Card.holds, h.readFile_path (show Plain space key from hp)]
      cases value base c space key <;> rfl
    | write space key bytes => exact congrArg MediumAnswer.done (h.write hp bytes).1
    | delete space key => exact congrArg MediumAnswer.done (h.delete hp).1
  good := fun {c call} h hp => by
    cases call with
    | write space key bytes => exact (h.write hp bytes).2.tidy hp h
    | delete space key => exact (h.delete hp).2.tidy hp h
    | read space key capacity => exact h
    | holds space key => exact h
  value := fun {c call} h hp space key _ => by
    cases call with
    | write space' key' bytes =>
      rw [MediumCall.getD_leaves_write]
      exact (h.write hp bytes).2.value space key
    | delete space' key' =>
      rw [MediumCall.getD_leaves_delete]
      exact (h.delete hp).2.value space key
    | read space' key' capacity =>
      rw [MediumCall.leaves_read]
      rfl
    | holds space' key' =>
      rw [MediumCall.leaves_holds]
      rfl

end Card

end AquariumControl
