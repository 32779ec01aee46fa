import Mathlib.Data.String.Basic
import ParamSchema.Disk
import ParamSchema.Proofs.Entries
import ParamSchema.Proofs.Fallible

/-!
Directories and the paths of their entries. A disk `HasDirectory` where the paths of the listed
files lead to these files; a directory in memory with proper names always does
(`FileTree.hasDirectory`).
-/

namespace ParamSchema

/-- The path leads to a directory with these entries. They have distinct names without slashes, and
the path of each file among them leads to the file. -/
structure Disk.HasDirectory (disk : Disk) (path : String) (entries : List (String × DirEntry)) :
    Prop where
  lists : disk path = .directory entries
  distinct : (entries.map (·.1)).Nodup
  noSlash : ∀ entry ∈ entries, '/' ∉ entry.1.toList
  files : ∀ name bytes, (name, .file bytes) ∈ entries →
    disk (DiskPath.join path name) = .file bytes

/-! ### Paths of entries -/

namespace DiskPath

variable {path name : String}

theorem pieces_eq (path : String) : pieces path = (path.toList.splitOn '/').map String.ofList := by
  rw [pieces, ← String.toList_split_char, Std.Iter.toStringList]
  simp

theorem pieces_of_noSlash (noSlash : '/' ∉ name.toList) : pieces name = [name] := by
  rw [pieces_eq, List.splitOn_eq_singleton noSlash, List.map_singleton, String.ofList_toList]

theorem pieces_slash (path name : String) (noSlash : '/' ∉ name.toList) :
    pieces (path ++ "/" ++ name) = pieces path ++ [name] := by
  have hchars : (path ++ "/" ++ name).toList = path.toList ++ '/' :: name.toList := by simp
  rw [← pieces_of_noSlash noSlash, pieces_eq, pieces_eq, pieces_eq, hchars,
    List.splitOn_append_cons_self, List.map_append]

theorem endsWith_slash_iff : path.endsWith "/" = true ↔ ∃ front, path = front ++ "/" := by
  rw [← String.endsWith_toSlice, String.Slice.endsWith_string_iff, String.copy_toSlice]
  constructor
  · rintro ⟨front, hfront⟩
    exact ⟨String.ofList front, String.toList_inj.mp (by simp [← hfront])⟩
  · rintro ⟨front, rfl⟩
    simp

/-- Whatever is made of the empty piece after a slash, an entry is the last part of its path. -/
theorem filter_pieces_join (keep : String → Bool) (path : String) (noSlash : '/' ∉ name.toList)
    (empty : keep "" = false) (kept : keep name = true) :
    (pieces (join path name)).filter keep = (pieces path).filter keep ++ [name] := by
  rw [join]
  split
  case isTrue h =>
    rcases Bool.or_eq_true_iff.mp h with hempty | hslash
    · obtain rfl := String.isEmpty_iff.mp hempty
      simp [pieces_of_noSlash, noSlash, empty, kept]
    · obtain ⟨front, rfl⟩ := endsWith_slash_iff.mp hslash
      have hfront : pieces (front ++ "/") = pieces front ++ [""] := by
        rw [← pieces_slash front "" (by simp), String.append_empty]
      simp [pieces_slash, noSlash, hfront, empty, kept]
  case isFalse h =>
    simp [pieces_slash, noSlash, kept]

/-- What an entry of a directory can be named. -/
structure IsName (name : String) : Prop where
  nonempty : name ≠ ""
  noSlash : '/' ∉ name.toList
  notDot : name ≠ "."
  notParent : name ≠ ".."

instance (name : String) : Decidable (IsName name) :=
  decidable_of_iff (name ≠ "" ∧ '/' ∉ name.toList ∧ name ≠ "." ∧ name ≠ "..")
    ⟨fun h => ⟨h.1, h.2.1, h.2.2.1, h.2.2.2⟩,
      fun h => ⟨h.nonempty, h.noSlash, h.notDot, h.notParent⟩⟩

theorem fileName?_join (path : String) (isName : IsName name) :
    fileName? (join path name) = some name := by
  have hfilter := filter_pieces_join (fun part => !part.isEmpty && part != ".") path
    isName.noSlash (by simp) (by simp [isName.nonempty, isName.notDot])
  rw [fileName?, hfilter, List.getLast?_concat]
  split
  case h_1 h => exact absurd (Option.some.inj h) isName.notParent
  case h_2 => rfl

theorem endsWith_join (path : String) (isName : IsName name) :
    (join path name).endsWith "/" = false := by
  rw [Bool.eq_false_iff, Ne, endsWith_slash_iff]
  rintro ⟨front, hfront⟩
  obtain ⟨before, hbefore⟩ : ∃ before, join path name = before ++ name := by
    rw [join]
    split
    · exact ⟨_, rfl⟩
    · exact ⟨_, rfl⟩
  have hname : name.toList ≠ [] := by simp [isName.nonempty]
  have hlast := congrArg (·.toList.getLast?) (hbefore.symm.trans hfront)
  simp only [String.toList_append, List.getLast?_append_of_ne_nil _ hname] at hlast
  exact isName.noSlash (List.mem_of_getLast? (hlast.trans List.getLast?_concat))

theorem join_empty (name : String) : join "" name = name := by
  rw [join, if_pos (by simp), String.empty_append]

theorem endsWith_name (isName : IsName name) : name.endsWith "/" = false :=
  join_empty name ▸ endsWith_join "" isName

theorem parts_name (isName : IsName name) : parts name = [name] := by
  rw [parts, pieces_of_noSlash isName.noSlash, endsWith_name isName]
  simp [isName.nonempty]

theorem parts_join (path : String) (isName : IsName name) : ∃ names,
    (parts path = names ∨ parts path = names ++ ["."]) ∧
      parts (join path name) = names ++ [name] := by
  -- A slash at the end stands for one more part, which gives way to the name.
  refine ⟨(pieces path).filter fun part => !part.isEmpty, ?_, ?_⟩
  · rw [parts]
    split
    · exact .inr rfl
    · exact .inl (List.append_nil _)
  · rw [parts, filter_pieces_join _ path isName.noSlash (by simp) (by simp [isName.nonempty]),
      endsWith_join path isName]
    simp

end DiskPath

/-! ### Directories in memory -/

namespace FileTree

/-- Each directory has entries with distinct names that are not too long. -/
inductive WellNamed : FileTree → Prop
  | file (bytes : ByteArray) : WellNamed (.file bytes)
  | link (target : String) : WellNamed (.link target)
  | directory {entries : List (String × FileTree)} (distinct : (entries.map (·.1)).Nodup)
    (names : ∀ entry ∈ entries, DiskPath.IsName entry.1)
    (lengths : ∀ entry ∈ entries, entry.1.utf8ByteSize ≤ maxName)
    (trees : ∀ entry ∈ entries, WellNamed entry.2) : WellNamed (.directory entries)

variable {links : Nat} {above : List FileTree} {here parent tree root : FileTree}
  {names rest : List String} {entries : List (String × FileTree)} {name path target : String}
  {bytes : ByteArray}

theorem walk_dot : walk links above (.directory entries) ("." :: rest) =
    walk links above (.directory entries) rest := by
  rw [walk.eq_def]
  dsimp only
  rw [if_pos rfl]

theorem walk_parent : walk links (parent :: above) (.directory entries) (".." :: rest) =
    walk links above parent rest := by
  rw [walk.eq_def]
  dsimp only
  rw [if_neg (by decide), if_pos rfl]

structure Walkable (name : String) : Prop where
  notDot : name ≠ "."
  notParent : name ≠ ".."
  length : ¬maxName < name.utf8ByteSize

theorem walk_link (walkable : Walkable name) (found : entries.lookup name = some (.link target))
    (relative : ¬(target.isEmpty || target.startsWith "/") = true) :
    walk (links + 1) above (.directory entries) (name :: rest) =
      walk links above (.directory entries) (DiskPath.parts target ++ rest) := by
  rw [walk.eq_def]
  dsimp only
  rw [if_neg walkable.notDot, if_neg walkable.notParent, if_neg walkable.length]
  simp only [found, if_neg relative]

theorem walk_entry (walkable : Walkable name) (found : entries.lookup name = some tree)
    (noLink : ∀ target, tree ≠ .link target) :
    walk links above (.directory entries) (name :: rest) =
      walk links (.directory entries :: above) tree rest := by
  rw [walk.eq_def]
  dsimp only
  rw [if_neg walkable.notDot, if_neg walkable.notParent, if_neg walkable.length]
  cases tree <;> simp_all

theorem wellNamed_of_walk (h : walk links above here names = .ok tree) (wellNamed : here.WellNamed)
    (parents : ∀ parent ∈ above, parent.WellNamed) : tree.WellNamed := by
  fun_induction walk links above here names with
  | case1 links above here =>
    cases h
    exact wellNamed
  | case2 links above rest entries ih => exact ih h wellNamed parents
  | case3 links rest entries parent above hdot ih =>
    obtain ⟨hparent, habove⟩ := List.forall_mem_cons.mp parents
    exact ih h hparent habove
  | case9 above name rest entries hdot hparent hlength target found links relative ih =>
    exact ih h wellNamed parents
  | case10 links above name rest entries hdot hparent hlength next noLink found ih =>
    cases wellNamed with
    | directory distinct names lengths trees =>
      refine ih h (trees (name, next) ((Entries.lookup_eq_some_iff_mem distinct).mp found)) ?_
      exact List.forall_mem_cons.mpr ⟨.directory distinct names lengths trees, parents⟩
  | _ => cases h

/-- A walk goes on from where its first part comes to, if it comes to anything. -/
theorem walk_append (links : Nat) (above : List FileTree) (here : FileTree) (names : List String) :
    ∃ links' above', ∀ rest, walk links above here (names ++ rest) =
      walk links above here names >>= fun tree => walk links' above' tree rest := by
  fun_induction walk links above here names with
  | case1 links above here => exact ⟨links, above, fun _ => rfl⟩
  | case2 links above names entries ih => simpa only [List.cons_append, walk_dot] using ih
  | case3 links names entries parent above hdot ih =>
    simpa only [List.cons_append, walk_parent] using ih
  | case9 above name names entries hdot hparent hlength target found links relative ih =>
    simpa only [List.cons_append, List.append_assoc,
      walk_link ⟨hdot, hparent, hlength⟩ found relative] using ih
  | case10 links above name names entries hdot hparent hlength next noLink found ih =>
    simpa only [List.cons_append, walk_entry ⟨hdot, hparent, hlength⟩ found noLink] using ih
  | _ =>
    -- The fault is that of the first name, whatever comes after it.
    refine ⟨0, [], fun rest => ?_⟩
    rw [List.cons_append, walk.eq_def]
    simp only [*, reduceIte]
    rfl

/-- Paths from the root of a tree, which stands nowhere. -/
def Relative (path : String) : Prop := (path.isEmpty || path.startsWith "/") = false

theorem Relative.join (relative : Relative path) (name : String) :
    Relative (DiskPath.join path name) := by
  simp only [Relative, Bool.or_eq_false_iff, String.isEmpty_eq_false_iff,
    String.startsWith_string_eq_false_iff] at relative ⊢
  obtain ⟨hne, hslash⟩ := relative
  obtain ⟨more, hjoin⟩ : ∃ more, DiskPath.join path name = path ++ more := by
    rw [DiskPath.join]
    split
    · exact ⟨_, rfl⟩
    · exact ⟨"/" ++ name, String.append_assoc⟩
  obtain ⟨c, chars, hchars⟩ : ∃ c chars, path.toList = c :: chars :=
    List.exists_cons_of_ne_nil (by simp [hne])
  rw [hjoin, String.toList_append, hchars]
  rw [hchars] at hslash
  refine ⟨by simp [hne], ?_⟩
  simpa using hslash

theorem disk_eq_directory_iff {listed : List (String × DirEntry)} :
    root.disk path = .directory listed ↔ Relative path ∧ ∃ entries,
      walk maxLinks [] root (DiskPath.parts path) = .ok (.directory entries) ∧
        listed = entries.map fun (name, tree) => (name, tree.entryKind) := by
  rw [disk, Relative, ← Bool.not_eq_true]
  split
  case isTrue h => simp [h]
  case isFalse h =>
    cases hwalk : walk maxLinks [] root (DiskPath.parts path) with
    | error fault => simp
    | ok tree => cases tree <;> simp [h, eq_comm]

theorem disk_of_walk (relative : Relative path)
    (h : walk maxLinks [] root (DiskPath.parts path) = .ok (.file bytes)) :
    root.disk path = .file bytes := by
  rw [disk, if_neg (Bool.not_eq_true _ ▸ relative), h]

theorem walk_join (h : walk maxLinks [] root (DiskPath.parts path) = .ok (.directory entries))
    (isName : DiskPath.IsName name) (length : name.utf8ByteSize ≤ maxName)
    (found : entries.lookup name = some (.file bytes)) :
    walk maxLinks [] root (DiskPath.parts (DiskPath.join path name)) = .ok (.file bytes) := by
  have hwalkable : Walkable name := ⟨isName.notDot, isName.notParent, Nat.not_lt.mpr length⟩
  obtain ⟨names, hparts, hjoin⟩ := DiskPath.parts_join path isName
  obtain ⟨links, above, happend⟩ := walk_append maxLinks [] root names
  have hnames : walk maxLinks [] root names = .ok (.directory entries) := by
    rcases hparts with heq | heq
    · rw [← heq, h]
    · -- The walk to the names has come to the directory before its last part.
      rw [heq, happend, bind_eq_ok_iff] at h
      obtain ⟨tree, hnames, hdot⟩ := h
      cases tree with
      | directory entries' =>
        rw [walk_dot, walk] at hdot
        rw [hnames, hdot]
      | _ => simp [walk] at hdot
  have hfile (target : String) : FileTree.file bytes ≠ .link target := fun h => by cases h
  rw [hjoin, happend, hnames, ok_bind, walk_entry hwalkable found hfile, walk]

theorem hasDirectory {listed : List (String × DirEntry)} (wellNamed : root.WellNamed)
    (lists : root.disk path = .directory listed) : root.disk.HasDirectory path listed := by
  obtain ⟨relative, entries, hwalk, rfl⟩ := disk_eq_directory_iff.mp lists
  cases wellNamed_of_walk hwalk wellNamed nofun with
  | directory distinct names lengths trees =>
    refine ⟨lists, ?distinct, ?noSlash, ?files⟩
    case distinct => simpa [Function.comp_def] using distinct
    case noSlash =>
      intro entry hentry
      obtain ⟨named, hnamed, rfl⟩ := List.mem_map.mp hentry
      exact (names named hnamed).noSlash
    case files =>
      intro name bytes hfile
      obtain ⟨⟨name, tree⟩, hentry, heq⟩ := List.mem_map.mp hfile
      cases tree with
      | file bytes' =>
        cases heq
        have hfound := (Entries.lookup_eq_some_iff_mem distinct).mpr hentry
        exact disk_of_walk (relative.join name)
          (walk_join hwalk (names _ hentry) (lengths _ hentry) hfound)
      | _ => cases heq

end FileTree

end ParamSchema
