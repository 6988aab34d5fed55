import Mathlib.Data.List.Basic
import OwnerKeys.FileTree

/-!
# Files in one directory

Files whose paths are made from one directory and different names are different files: a file can be
created, replaced or removed without any effect on what is found at the paths of the others. For the
way to a file leads through directories only, and none of them is the file.
-/

namespace OwnerKeys.FileTree

/-! ## Written paths -/

theorem splitSlashes_ne_nil (chars : List Char) : splitSlashes chars ≠ [] := by
  cases chars with
  | nil => simp [splitSlashes]
  | cons char rest =>
      rw [splitSlashes]
      split
      · simp
      · split
        · simp
        · simp

theorem splitSlashes_append_slash (front back : List Char) :
    splitSlashes (front ++ '/' :: back) = splitSlashes front ++ splitSlashes back := by
  induction front with
  | nil => simp [splitSlashes]
  | cons char rest ih =>
      rw [List.cons_append, splitSlashes, splitSlashes, ih]
      rcases pieces : splitSlashes rest with - | ⟨piece, later⟩
      · exact absurd pieces (splitSlashes_ne_nil rest)
      · split
        · rfl
        · rfl

theorem splitSlashes_of_notin {chars : List Char} (noSlash : '/' ∉ chars) :
    splitSlashes chars = [chars] := by
  induction chars with
  | nil => rfl
  | cons char rest ih =>
      rw [List.mem_cons, not_or] at noSlash
      rw [splitSlashes, if_neg (Ne.symm noSlash.1), ih noSlash.2]

/-- The name of something in a directory: it is no path, and does not stand for the directory itself
or for the one above. -/
structure IsEntry (name : String) : Prop where
  /-- There is no slash in the name. -/
  no_slash : '/' ∉ name.toList
  /-- The name is neither empty nor one of the two that have a meaning of their own. -/
  not_special : name ≠ "" ∧ name ≠ "." ∧ name ≠ ".."

theorem IsEntry.of_long {name : String} (noSlash : '/' ∉ name.toList)
    (long : 2 < name.toList.length) : IsEntry name := by
  refine ⟨noSlash, ?_, ?_, ?_⟩
  · rintro rfl
    exact absurd long (by decide)
  · rintro rfl
    exact absurd long (by decide)
  · rintro rfl
    exact absurd long (by decide)

/-- The names that lead to a directory as it is written. -/
def leading (directory : String) : List String :=
  if directory.isEmpty then []
  else if directory.toList.getLast? = some '/' then
    (splitSlashes directory.toList.dropLast).map String.ofList
  else names directory

theorem IsEntry.not_isAbsolute {name : String} (entry : IsEntry name) :
    isAbsolute name = false := by
  unfold isAbsolute
  rw [beq_eq_false_iff_ne]
  exact fun isSlash => entry.no_slash (List.mem_of_mem_head? isSlash)

/-- The names in the path of a file are those of its directory and its own. -/
theorem names_join (directory : String) {name : String} (entry : IsEntry name) :
    names (join directory name) = leading directory ++ [name] := by
  have own : (splitSlashes name.toList).map String.ofList = [name] := by
    rw [splitSlashes_of_notin entry.no_slash, List.map_singleton, String.ofList_toList]
  simp only [join, leading, names, entry.not_isAbsolute, Bool.false_eq_true, false_or]
  split
  · exact own
  · split
    · rename_i endsInSlash
      have ending := List.dropLast_append_getLast? _ endsInSlash
      rw [String.toList_append, ← ending, List.append_assoc, List.singleton_append,
        splitSlashes_append_slash, List.map_append, own, List.dropLast_concat]
    · have slash : "/".toList = ['/'] := by decide
      rw [String.toList_append, String.toList_append, slash, List.append_assoc,
        List.singleton_append, splitSlashes_append_slash, List.map_append, own]

/-- The characters in the path of a file are those of the directory and of the name, save for a
slash in between. -/
theorem mem_join_iff (directory : String) {name : String} (entry : IsEntry name) {char : Char}
    (notSlash : char ≠ '/') :
    char ∈ (join directory name).toList ↔ char ∈ directory.toList ∨ char ∈ name.toList := by
  simp only [join, entry.not_isAbsolute, Bool.false_eq_true, false_or]
  split
  · rename_i empty
    simp [String.isEmpty_iff.mp empty]
  · split
    · simp
    · simp [notSlash]

/-- A path is absolute if that of its directory is. -/
theorem isAbsolute_join (directory : String) {name : String} (entry : IsEntry name) :
    isAbsolute (join directory name) = isAbsolute directory := by
  simp only [join, entry.not_isAbsolute, Bool.false_eq_true, false_or]
  split
  · rename_i empty
    rw [entry.not_isAbsolute, String.isEmpty_iff.mp empty]
    rfl
  · rename_i notEmpty
    have notNil : directory.toList ≠ [] := by
      simpa using notEmpty
    have sameHead (rest : List Char) :
        (directory.toList ++ rest).head? = directory.toList.head? :=
      List.head?_append_of_ne_nil _ notNil
    split
    · simp only [isAbsolute, String.toList_append, sameHead]
    · simp only [isAbsolute, String.toList_append, List.append_assoc, sameHead]

/-! ## The way to a file -/

section Walking

variable {tree : FileTree} {place next : Path} {name : String}

theorem followAll_append (tree : FileTree) (place : Path) (front back : List String) :
    tree.followAll place (front ++ back) =
      (tree.followAll place front).bind fun next => tree.followAll next back := by
  induction front generalizing place with
  | nil => rfl
  | cons name later ih =>
      simp only [List.cons_append, followAll, bind]
      cases tree.follow place name with
      | error refusal => rfl
      | ok next => exact ih next

/-- Names lead on from directories only. -/
theorem directory_of_follow (followed : tree.follow place name = .ok next) :
    tree.node? place = some .directory := by
  unfold follow at followed
  split at followed
  · cases followed
  · cases followed
  · assumption

theorem follow_entry (entry : IsEntry name) (directory : tree.node? place = some .directory) :
    tree.follow place name =
      if maxNameLength < name.utf8ByteSize then .error .nameTooLong else .ok (place ++ [name]) := by
  rcases entry.not_special with ⟨notEmpty, notHere, notAbove⟩
  simp [follow, directory, notEmpty, notHere, notAbove]

/-- The place to which a directory leads, as it is written. -/
def directoryPlace (tree : FileTree) (directory : String) : Except Refusal Path :=
  tree.followAll (if isAbsolute directory then [] else tree.home) (leading directory)

/-- The way to a file leads to its directory first. -/
theorem resolve_join (tree : FileTree) (directory : String) (entry : IsEntry name) :
    tree.resolve (join directory name) =
      if (join directory name).toList.contains '\x00' then .error .zeroByte
      else if (join directory name).isEmpty then .error .notFound
      else if maxPathLength < (join directory name).utf8ByteSize then .error .nameTooLong
      else (tree.directoryPlace directory).bind (tree.follow · name) := by
  have last (place : Path) : tree.followAll place [name] = tree.follow place name := by
    simp only [followAll, bind]
    cases tree.follow place name with
    | error refusal => rfl
    | ok next => rfl
  rw [resolve, isAbsolute_join directory entry, names_join directory entry, followAll_append]
  simp only [last, directoryPlace]

/-- A file is found inside its directory. -/
theorem exists_directory_of_resolve {directory : String} (entry : IsEntry name)
    (resolved : tree.resolve (join directory name) = .ok place) :
    ∃ parent, tree.directoryPlace directory = .ok parent ∧
      tree.node? parent = some .directory ∧ place = parent ++ [name] := by
  rw [resolve_join tree directory entry] at resolved
  split at resolved
  · cases resolved
  · split at resolved
    · cases resolved
    · split at resolved
      · cases resolved
      · cases found : tree.directoryPlace directory with
        | error refusal => simp [found, Except.bind] at resolved
        | ok parent =>
            simp only [found, Except.bind] at resolved
            have isDirectory := directory_of_follow resolved
            rw [follow_entry entry isDirectory] at resolved
            split at resolved
            · cases resolved
            · cases resolved
              exact ⟨parent, rfl, isDirectory, rfl⟩

end Walking

/-! ## What is found at a path -/

section Finding

variable {tree : FileTree}

/-- The place to which a written path leads, and what is found there. -/
def find (tree : FileTree) (path : String) : Except Refusal (Path × Option Node) :=
  (tree.resolve path).map fun place => (place, tree.node? place)

theorem find_eq_ok_iff {path : String} {place : Path} {found : Option Node} :
    tree.find path = .ok (place, found) ↔
      tree.resolve path = .ok place ∧ tree.node? place = found := by
  unfold find
  cases tree.resolve path with
  | error refusal => simp [Except.map]
  | ok next =>
      simp only [Except.map, Except.ok.injEq, Prod.mk.injEq]
      constructor
      · rintro ⟨rfl, same⟩
        exact ⟨rfl, same⟩
      · rintro ⟨rfl, same⟩
        exact ⟨rfl, same⟩

theorem lookup_eq_find (tree : FileTree) (path : String) :
    tree.lookup path = match tree.find path with
      | .error refusal => .error refusal
      | .ok (_, some node) => .ok node
      | .ok (_, none) => .error .notFound := by
  unfold lookup find
  cases tree.resolve path with
  | error refusal => rfl
  | ok place =>
      simp only [bind, Except.bind, Except.map]
      cases tree.node? place with
      | none => rfl
      | some node => rfl

theorem lookup_eq_ok_iff {path : String} {node : Node} :
    tree.lookup path = .ok node ↔
      ∃ place, tree.resolve path = .ok place ∧ tree.node? place = some node := by
  unfold lookup
  cases tree.resolve path with
  | error refusal => simp [bind, Except.bind]
  | ok place =>
      simp only [bind, Except.bind, Except.ok.injEq, exists_eq_left']
      cases tree.node? place with
      | none => simp
      | some found => simp

/-- The operating system takes a path without a zero byte only. -/
theorem zero_notin_of_lookup {path : String} {found : Except Refusal Node}
    (looked : tree.lookup path = found) (noZero : found ≠ .error .zeroByte) :
    '\x00' ∉ path.toList := by
  intro mem
  rw [lookup, resolve, if_pos (by simpa using mem)] at looked
  exact noZero looked.symm

/-- A path that the operating system takes is followed name by name. -/
theorem resolve_of_lookup {path : String} {found : Except Refusal Node}
    (notEmpty : path.isEmpty = false) (looked : tree.lookup path = found)
    (noZero : found ≠ .error .zeroByte) (fits : found ≠ .error .nameTooLong) :
    path.utf8ByteSize ≤ maxPathLength ∧ tree.resolve path =
      tree.followAll (if isAbsolute path then [] else tree.home) (names path) := by
  have zero : ¬path.toList.contains '\x00' = true := by
    simpa using zero_notin_of_lookup looked noZero
  by_cases long : maxPathLength < path.utf8ByteSize
  · rw [lookup, resolve, if_neg zero, notEmpty, if_neg Bool.false_ne_true, if_pos long] at looked
    exact absurd looked.symm fits
  · refine ⟨Nat.le_of_not_lt long, ?_⟩
    rw [resolve, if_neg zero, notEmpty, if_neg Bool.false_ne_true, if_neg long]

/-- Behind a slash at the end of a path there is an empty name. -/
theorem names_eq_leading {directory : String} (notEmpty : ¬directory.isEmpty = true) :
    names directory = leading directory ∨ names directory = leading directory ++ [""] := by
  unfold leading
  rw [if_neg notEmpty]
  split
  · rename_i endsInSlash
    right
    have ending := List.dropLast_append_getLast? _ endsInSlash
    rw [names, ← ending, splitSlashes_append_slash, List.map_append, List.dropLast_concat]
    rfl
  · exact .inl rfl

/-- The text of a directory as a path of its own; an empty one stands for the working directory. -/
def directoryText (directory : String) : String :=
  if directory.isEmpty then "." else directory

theorem directoryText_ne_empty (directory : String) :
    (directoryText directory).isEmpty = false := by
  unfold directoryText
  split
  · rfl
  · simpa using ‹¬directory.isEmpty = true›

/-- What is found at the path of a directory, by what is found at the place to which it leads. -/
inductive DirectoryLookup (tree : FileTree) (directory : String) : Except Refusal Node → Prop where
  /-- The way to the place is blocked. -/
  | stopped {refusal : Refusal} (stops : tree.directoryPlace directory = .error refusal) :
      DirectoryLookup tree directory (.error refusal)
  /-- Nothing is there. -/
  | missing {place : Path} (leads : tree.directoryPlace directory = .ok place)
      (nothing : tree.node? place = none) : DirectoryLookup tree directory (.error .notFound)
  /-- A file is there. -/
  | file {place : Path} {content : Bytes} (leads : tree.directoryPlace directory = .ok place)
      (isFile : tree.node? place = some (.file content)) :
      DirectoryLookup tree directory (.ok (.file content))
  /-- A file is there, and the path insists on a directory by a slash at its end. -/
  | slashed {place : Path} {content : Bytes} (leads : tree.directoryPlace directory = .ok place)
      (isFile : tree.node? place = some (.file content)) :
      DirectoryLookup tree directory (.error .notDirectory)
  /-- A directory is there. -/
  | directory {place : Path} (leads : tree.directoryPlace directory = .ok place)
      (isDirectory : tree.node? place = some .directory)
      (resolved : tree.resolve (directoryText directory) = .ok place) :
      DirectoryLookup tree directory (.ok .directory)

theorem followAll_singleton (tree : FileTree) (place : Path) (name : String) :
    tree.followAll place [name] = tree.follow place name := by
  simp only [followAll, bind]
  cases tree.follow place name with
  | error refusal => rfl
  | ok next => rfl

/-- The way along the path of a directory is the way to its place, or that and one more name, which
stands for the place itself. -/
theorem followAll_directoryText (tree : FileTree) (directory : String) :
    let text := directoryText directory
    let walk := tree.followAll (if isAbsolute text then [] else tree.home) (names text)
    walk = tree.directoryPlace directory ∨
      ∃ here, (here = "" ∨ here = ".") ∧
        walk = (tree.directoryPlace directory).bind (tree.follow · here) := by
  by_cases empty : directory.isEmpty
  · obtain rfl : directory = "" := String.isEmpty_iff.mp empty
    have isText : directoryText "" = "." := by decide
    have namesText : names "." = ["."] := by decide
    have notAbsolute : isAbsolute "." = false ∧ isAbsolute "" = false := by decide
    have placed : tree.directoryPlace "" = .ok tree.home := by
      simp [directoryPlace, leading, notAbsolute.2, followAll]
    refine .inr ⟨".", .inr rfl, ?_⟩
    simp only [isText, namesText, notAbsolute.1, followAll_singleton, placed]
    rfl
  · have isText : directoryText directory = directory := if_neg empty
    simp only [isText]
    rcases names_eq_leading empty with plain | slashed
    · left
      rw [plain]
      rfl
    · refine .inr ⟨"", .inl rfl, ?_⟩
      rw [slashed, followAll_append]
      simp only [followAll_singleton]
      rfl

theorem follow_here {here : String} (isHere : here = "" ∨ here = ".") :
    tree.follow place here = match tree.node? place with
      | none => .error .notFound
      | some (.file _) => .error .notDirectory
      | some .directory => .ok place := by
  unfold follow
  rcases tree.node? place with _ | ⟨content | _⟩
  · rfl
  · rfl
  · exact if_pos isHere

theorem directoryLookup {directory : String} {found : Except Refusal Node}
    (looked : tree.lookup (directoryText directory) = found) (noZero : found ≠ .error .zeroByte)
    (fits : found ≠ .error .nameTooLong) : DirectoryLookup tree directory found := by
  have resolved := (resolve_of_lookup (directoryText_ne_empty directory) looked noZero fits).2
  subst looked
  have walks := followAll_directoryText tree directory
  dsimp only at walks
  rw [← resolved] at walks
  unfold lookup
  rcases led : tree.directoryPlace directory with refusal | place
  · have stops : tree.resolve (directoryText directory) = .error refusal := by
      rcases walks with same | ⟨here, _, follows⟩
      · rw [same, led]
      · rw [follows, led]
        rfl
    rw [stops]
    exact .stopped led
  · rcases walks with same | ⟨here, isHere, follows⟩
    · rw [led] at same
      simp only [same, bind, Except.bind]
      rcases node : tree.node? place with _ | ⟨content | _⟩
      · exact .missing led node
      · exact .file led node
      · exact .directory led node same
    · rw [led] at follows
      simp only [Except.bind, follow_here isHere] at follows
      rw [follows]
      rcases node : tree.node? place with _ | ⟨content | _⟩
      · exact .missing led node
      · exact .slashed led node
      · rw [node] at follows
        simp only [bind, Except.bind, node]
        exact .directory led node follows

/-- A directory that exists is a place to which names can be added. -/
theorem exists_directoryPlace {directory : String}
    (isDirectory : tree.lookup directory = .ok .directory) :
    ∃ parent, tree.directoryPlace directory = .ok parent ∧ tree.node? parent = some .directory := by
  have notEmpty : ¬directory.isEmpty = true := by
    intro empty
    rw [String.isEmpty_iff.mp empty] at isDirectory
    cases isDirectory
  have isText : directoryText directory = directory := if_neg notEmpty
  rw [← isText] at isDirectory
  cases directoryLookup isDirectory (by simp) (by simp) with
  | @directory place leads found _ => exact ⟨place, leads, found⟩

theorem join_ne_empty (directory : String) {name : String} (entry : IsEntry name) :
    (join directory name).isEmpty = false := by
  have nameNotEmpty := entry.not_special.1
  simp only [join, entry.not_isAbsolute, Bool.false_eq_true, false_or]
  split
  · simpa using nameNotEmpty
  · split
    · simp [nameNotEmpty]
    · simp [nameNotEmpty]

/-- The path of a file that can be in an existing directory leads to nothing if and only if the
operating system takes the path and the name and finds nothing of that name in the directory. -/
theorem lookup_join_eq_notFound_iff {directory name : String} {parent : Path}
    (entry : IsEntry name) (found : tree.directoryPlace directory = .ok parent)
    (isDirectory : tree.node? parent = some .directory) :
    tree.lookup (join directory name) = .error .notFound ↔
      '\x00' ∉ (join directory name).toList ∧ (join directory name).utf8ByteSize ≤ maxPathLength ∧
        name.utf8ByteSize ≤ maxNameLength ∧ tree.node? (parent ++ [name]) = none := by
  unfold lookup
  rw [resolve_join tree directory entry, found, join_ne_empty directory entry, ← Nat.not_lt,
    ← Nat.not_lt]
  simp only [Except.bind, follow_entry entry isDirectory]
  by_cases zero : '\x00' ∈ (join directory name).toList
  · simp [zero, bind, Except.bind]
  · by_cases long : maxPathLength < (join directory name).utf8ByteSize
    · simp [zero, long, bind, Except.bind]
    · by_cases longName : maxNameLength < name.utf8ByteSize
      · simp [zero, long, longName, bind, Except.bind]
      · cases nothing : tree.node? (parent ++ [name]) with
        | none => simp [zero, long, longName, nothing, bind, Except.bind]
        | some node => simp [zero, long, longName, nothing, bind, Except.bind]

/-- A file that does not exist in an existing directory has its place there. -/
theorem exists_place_of_missing {directory name : String} (entry : IsEntry name)
    (isDirectory : tree.lookup directory = .ok .directory)
    (missing : tree.lookup (join directory name) = .error .notFound) :
    ∃ place, tree.resolve (join directory name) = .ok place ∧ tree.node? place = none := by
  rcases exists_directoryPlace isDirectory with ⟨parent, found, parentDirectory⟩
  rcases (lookup_join_eq_notFound_iff entry found parentDirectory).mp missing with
    ⟨zero, short, shortName, nothing⟩
  refine ⟨parent ++ [name], ?_, nothing⟩
  rw [resolve_join tree directory entry, found, join_ne_empty directory entry]
  simp [zero, Nat.not_lt.mpr short, Nat.not_lt.mpr shortName, Except.bind,
    follow_entry entry parentDirectory]

end Finding

/-! ## Changes of one file -/

/-- From one tree to another, nothing has changed but what is found at one place, and no directory
was found there. -/
structure ChangesOnly (place : Path) (before after : FileTree) : Prop where
  /-- The working directory is the same. -/
  home_eq : after.home = before.home
  /-- No directory was at the place. -/
  not_directory : before.node? place ≠ some .directory
  /-- Nothing has changed elsewhere. -/
  node?_eq : ∀ other, other ≠ place → after.node? other = before.node? other

namespace ChangesOnly

variable {place final : Path} {before after : FileTree}

theorem directory (changes : ChangesOnly place before after)
    (isDirectory : before.node? final = some .directory) :
    after.node? final = some .directory := by
  rw [changes.node?_eq, isDirectory]
  rintro rfl
  exact changes.not_directory isDirectory

/-- A way that existed still exists. -/
theorem followAll (changes : ChangesOnly place before after) {start : Path} {names : List String}
    (walked : before.followAll start names = .ok final) :
    after.followAll start names = .ok final := by
  induction names generalizing start with
  | nil => exact walked
  | cons name later ih =>
      simp only [FileTree.followAll, bind] at walked ⊢
      cases followed : before.follow start name with
      | error refusal => simp [followed, Except.bind] at walked
      | ok next =>
          -- The way leads on from directories only, so never from the place that has changed.
          have isDirectory := directory_of_follow followed
          have sameFollow : after.follow start name = before.follow start name := by
            simp only [follow, isDirectory, changes.directory isDirectory]
          rw [followed] at walked
          rw [sameFollow, followed]
          exact ih walked

theorem resolve (changes : ChangesOnly place before after) {path : String}
    (resolved : before.resolve path = .ok final) : after.resolve path = .ok final := by
  unfold FileTree.resolve at resolved ⊢
  split at resolved
  · cases resolved
  · split at resolved
    · cases resolved
    · split at resolved
      · cases resolved
      · rename_i noZero notEmpty short
        rw [if_neg noZero, if_neg notEmpty, if_neg short, changes.home_eq]
        exact changes.followAll resolved

/-- The files in a directory are where they were. -/
theorem resolve_join_eq {directory other : String} {parent : Path} (otherEntry : IsEntry other)
    (changes : ChangesOnly place before after)
    (found : before.directoryPlace directory = .ok parent)
    (isDirectory : before.node? parent = some .directory) :
    after.resolve (join directory other) = before.resolve (join directory other) := by
  have foundAfter : after.directoryPlace directory = .ok parent := by
    unfold directoryPlace at found ⊢
    rw [changes.home_eq]
    exact changes.followAll found
  rw [resolve_join after directory otherEntry, resolve_join before directory otherEntry, found,
    foundAfter]
  simp only [Except.bind, follow_entry otherEntry isDirectory,
    follow_entry otherEntry (changes.directory isDirectory)]

/-- The files in a directory are where they were, and those at other places are as they were. -/
theorem find_join_of_ne {directory other : String} {parent : Path} (otherEntry : IsEntry other)
    (changes : ChangesOnly place before after)
    (found : before.directoryPlace directory = .ok parent)
    (isDirectory : before.node? parent = some .directory) (elsewhere : parent ++ [other] ≠ place) :
    after.find (join directory other) = before.find (join directory other) := by
  unfold find
  rw [changes.resolve_join_eq otherEntry found isDirectory]
  cases otherResolved : before.resolve (join directory other) with
  | error refusal => rfl
  | ok otherPlace =>
      rcases exists_directory_of_resolve otherEntry otherResolved with
        ⟨otherParent, otherFound, _, rfl⟩
      cases found.symm.trans otherFound
      simp only [Except.map, changes.node?_eq _ elsewhere]

/-- The other files in the directory of the one that has changed are where they were, and as they
were. -/
theorem find_join {directory name other : String} (entry : IsEntry name)
    (otherEntry : IsEntry other) (different : other ≠ name)
    (changes : ChangesOnly place before after)
    (resolved : before.resolve (join directory name) = .ok place) :
    after.find (join directory other) = before.find (join directory other) := by
  rcases exists_directory_of_resolve entry resolved with ⟨parent, found, isDirectory, rfl⟩
  exact changes.find_join_of_ne otherEntry found isDirectory (by simpa using different)

/-- The other files in the directory are found as before. -/
theorem lookup_join {directory name other : String} (entry : IsEntry name)
    (otherEntry : IsEntry other) (different : other ≠ name)
    (changes : ChangesOnly place before after)
    (resolved : before.resolve (join directory name) = .ok place) :
    after.lookup (join directory other) = before.lookup (join directory other) := by
  rw [lookup_eq_find, lookup_eq_find, changes.find_join entry otherEntry different resolved]

end ChangesOnly

theorem node?_eq_get {tree : FileTree} {place : Path} (notRoot : place ≠ []) :
    tree.node? place = tree.nodes.get? place :=
  if_neg notRoot

theorem ne_nil_of_not_directory {tree : FileTree} {place : Path}
    (notDirectory : tree.node? place ≠ some .directory) : place ≠ [] := by
  rintro rfl
  exact notDirectory rfl

theorem lookup_eq_of_nothing {tree : FileTree} {path : String} {place : Path}
    (resolved : tree.resolve path = .ok place) (nothing : tree.node? place = none) :
    tree.lookup path = .error .notFound := by
  simp [lookup, resolved, nothing, bind, Except.bind]

theorem withFile_withFile (tree : FileTree) (place : Path) (earlier content : Bytes) :
    (tree.withFile place earlier).withFile place content = tree.withFile place content := by
  simp only [withFile, SortedMap.insert_insert]

theorem contentAt_withFile {tree : FileTree} {place : Path} (notRoot : place ≠ [])
    (content : Bytes) : (tree.withFile place content).contentAt place = content := by
  simp [contentAt, withFile, node?_eq_get notRoot, SortedMap.get?_insert]

section Writing

variable {tree after : FileTree} {path : String} {place : Path} {content : Bytes}

theorem node?_withFile (notRoot : place ≠ []) (content : Bytes) :
    (tree.withFile place content).node? place = some (.file content) := by
  rw [node?_eq_get notRoot, withFile, SortedMap.get?_insert, if_pos rfl]

theorem changesOnly_withFile (notDirectory : tree.node? place ≠ some .directory)
    (content : Bytes) : ChangesOnly place tree (tree.withFile place content) := by
  refine ⟨rfl, notDirectory, fun other different => ?_⟩
  simp only [withFile, node?, SortedMap.get?_insert, if_neg different]

/-- The tree with the file at a written path created, or its content replaced. -/
def write (tree : FileTree) (path : String) (content : Bytes) : Except FileError FileTree :=
  match tree.resolve path with
  | .error refusal => .error ⟨.openFile, path, refusal⟩
  | .ok place =>
    match tree.node? place with
    | some .directory => .error ⟨.openFile, path, .isDirectory⟩
    | _ => .ok (tree.withFile place content)

/-- A file is written in a place where there is no directory. -/
theorem write_eq_ok_iff :
    tree.write path content = .ok after ↔ ∃ place, tree.resolve path = .ok place ∧
      tree.node? place ≠ some .directory ∧ after = tree.withFile place content := by
  unfold write
  cases tree.resolve path with
  | error refusal => simp
  | ok place =>
      simp only [Except.ok.injEq, exists_eq_left']
      rcases tree.node? place with - | ⟨old | -⟩
      · simp [eq_comm]
      · simp [eq_comm]
      · simp

/-- Writing a file changes that file only. -/
theorem changesOnly_of_write (written : tree.write path content = .ok after) :
    ∃ place, tree.resolve path = .ok place ∧ ChangesOnly place tree after ∧
      after.node? place = some (.file content) := by
  rcases write_eq_ok_iff.mp written with ⟨place, resolved, notDirectory, rfl⟩
  exact ⟨place, resolved, changesOnly_withFile notDirectory content,
    node?_withFile (ne_nil_of_not_directory notDirectory) content⟩

/-- A file that was opened for writing has its content, or is new and empty. -/
theorem contentAt_of_openToWrite (opens : tree.openToWrite path = .ok (place, after)) :
    tree.resolve path = .ok place ∧ tree.node? place ≠ some .directory ∧
      after.contentAt place = tree.contentAt place ∧
      ∀ content, after.withFile place content = tree.withFile place content := by
  unfold openToWrite at opens
  split at opens
  · cases opens
  · rename_i samePlace resolved
    split at opens
    · cases opens
    · rename_i isFile
      cases opens
      exact ⟨resolved, by simp [isFile], rfl, fun _ => rfl⟩
    · rename_i nothing
      cases opens
      have notDirectory : tree.node? place ≠ some .directory := by simp [nothing]
      refine ⟨resolved, notDirectory, ?_, withFile_withFile tree place []⟩
      rw [contentAt_withFile (ne_nil_of_not_directory notDirectory)]
      simp only [contentAt, nothing]

/-- What stops a file from being opened for writing stops it from being written. -/
theorem write_eq_openToWrite (tree : FileTree) (path : String) (content : Bytes) :
    tree.write path content = (tree.openToWrite path).map fun (place, _) =>
      tree.withFile place content := by
  unfold write openToWrite
  cases tree.resolve path with
  | error refusal => rfl
  | ok place =>
      dsimp only
      rcases tree.node? place with - | ⟨old | -⟩ <;> rfl

/-- Writing over the front of a file and cutting off what is left over replaces the file. -/
theorem cut_overwrite (notRoot : place ≠ []) (content : Bytes) :
    let written := tree.overwrite place content
    (if content.length < (written.contentAt place).length then written.cut place content.length
      else written) = tree.withFile place content := by
  simp only [overwrite, cut, contentAt_withFile notRoot, withFile_withFile]
  split
  · rw [List.take_left]
  · rename_i nothingLeft
    rw [List.length_append] at nothingLeft
    have leftOver : (tree.contentAt place).drop content.length = [] :=
      List.eq_nil_of_length_eq_zero (by omega)
    rw [leftOver, List.append_nil]

end Writing

theorem exists_removed {tree : FileTree} {path : String} {place : Path} {content : Bytes}
    (resolved : tree.resolve path = .ok place)
    (isFile : tree.node? place = some (.file content)) :
    ∃ after, tree.remove path = .ok after := by
  unfold remove
  rw [resolved]
  simp only [isFile]
  exact ⟨_, rfl⟩

/-- What does not exist cannot be removed. -/
theorem remove_eq_of_missing {tree : FileTree} {path : String}
    (missing : tree.lookup path = .error .notFound) :
    tree.remove path = .error ⟨.removeFile, path, .notFound⟩ := by
  unfold lookup at missing
  unfold remove
  cases resolved : tree.resolve path with
  | error refusal =>
      rw [resolved] at missing
      cases missing
      rfl
  | ok place =>
      simp only [resolved, bind, Except.bind] at missing
      rcases found : tree.node? place with _ | node
      · simp only [found]
      · rw [found] at missing
        cases missing

/-- Removing a file changes that file only. -/
theorem changesOnly_of_remove {tree after : FileTree} {path : String}
    (removed : tree.remove path = .ok after) :
    ∃ place, tree.resolve path = .ok place ∧ ChangesOnly place tree after ∧
      after.node? place = none := by
  unfold remove at removed
  split at removed
  · cases removed
  · rename_i place resolved
    split at removed
    · rename_i content isFile
      cases removed
      have notDirectory : tree.node? place ≠ some .directory := by
        rw [isFile]
        simp
      have notRoot := ne_nil_of_not_directory notDirectory
      refine ⟨place, resolved, ⟨rfl, notDirectory, fun other different => ?_⟩, ?_⟩
      · simp only [node?, SortedMap.get?_erase, if_neg different]
      · rw [node?_eq_get notRoot, SortedMap.get?_erase, if_pos rfl]
    · cases removed
    · cases removed

/-- A file that cannot be removed because it does not exist is not found. -/
theorem lookup_eq_of_not_removed {tree : FileTree} {path : String} {error : FileError}
    (kept : tree.remove path = .error error) (missing : error.refusal = .notFound) :
    tree.lookup path = .error .notFound := by
  unfold remove at kept
  split at kept
  · rename_i refusal unresolved
    cases kept
    simp only [lookup, unresolved, bind, Except.bind]
    exact congrArg Except.error missing
  · rename_i place resolved
    split at kept
    · cases kept
    · cases kept
      cases missing
    · rename_i nothing
      exact lookup_eq_of_nothing resolved nothing

end OwnerKeys.FileTree
