import Mathlib.Data.String.Basic
import Resemblance.Proofs.Directories
import Resemblance.Proofs.SharedDocuments

/-!
The contents of a cache that began as an empty directory. Of the entries that were put at one path
the last one is left, and below the cache's directory there is nothing but the documents of these
entries and the directories on the way to them. So the cache is a map from paths to entries.
-/

namespace Resemblance

open FileTree

namespace CacheEntry

variable {entries : List CacheEntry} {entry : CacheEntry} {path : String}

/-- The last of some entries whose documents have a path. -/
def lastAt (entries : List CacheEntry) (path : String) : Option CacheEntry :=
  entries.reverse.find? fun entry => entry.key.path == path

theorem last_at_concat (entries : List CacheEntry) (entry : CacheEntry) (path : String) :
    lastAt (entries ++ [entry]) path = if entry.key.path = path then some entry
      else lastAt entries path := by
  simp only [lastAt, List.reverse_append, List.reverse_singleton, List.singleton_append,
    List.find?_cons]
  by_cases same : entry.key.path = path
  · simp [same]
  · rw [beq_false_of_ne same, if_neg same]

/-- The last entry at the names of the one that came is that one; elsewhere it is the last from
before. -/
theorem last_concat_iff {new : CacheEntry} :
    lastAt (entries ++ [new]) entry.key.path = some entry ↔
      if entry.key.names = new.key.names then new = entry
          else lastAt entries entry.key.path = some entry := by
  rw [last_at_concat]
  simp only [CacheKey.path_eq_iff, eq_comm]
  split <;> simp

theorem path_of_last (last : lastAt entries path = some entry) : entry.key.path = path := by
  simpa using List.find?_some last

theorem mem_of_last (last : lastAt entries path = some entry) : entry ∈ entries :=
  List.mem_reverse.1 (List.mem_of_find?_eq_some last)

end CacheEntry

namespace CacheKey

theorem length_names (key : CacheKey) : key.names.length = 6 := rfl

theorem length_directory_names (key : CacheKey) : key.directoryNames.length = 5 := rfl

theorem names_not_above (key other : CacheKey) : ¬ key.names <+: other.directoryNames := by
  intro above
  have longer := above.length_le
  rw [length_names, length_directory_names] at longer
  contradiction

end CacheKey

theorem FileTree.short_of_reached {tree : FileTree} {place names goal : List String}
    (down : ".." ∉ names)
    (found : advance tree place names = .ok (.reached goal)) :
    ∀ name ∈ names, name.utf8ByteSize ≤ greatestName := by
  induction names generalizing place with
  | nil => exact fun _ => nofun
  | cons name rest ih =>
      obtain ⟨first, down⟩ := not_or.1 (mt List.mem_cons.2 down)
      obtain ⟨-, short, ⟨_, _, same⟩ | ⟨-, found⟩⟩ := (advance_cons_ok (Ne.symm first)).1 found
      · exact nomatch same
      · exact List.forall_mem_cons.2 ⟨short, ih down found⟩

namespace CacheDirectory

variable {cache : CacheDirectory} {files files' between : FileTree} {key : CacheKey}
  {record : Record}
variable {entries : List CacheEntry} {entry : CacheEntry} {root names : List String}

section Putting

variable (puts : Puts cache files files' key record between root)

include puts

theorem Puts.directory_above (above : names <+: key.directoryNames) :
    between.DirectoryAt (root ++ names) := by
  by_cases last : names = key.directoryNames
  · exact last ▸ puts.fits.above
  · obtain ⟨_, here⟩ := puts.fits.above
    exact directory_above_entry ((List.prefix_append_right_inj root).2 above)
      (fun same => last (List.append_cancel_left same)) here

theorem Puts.directory_iff (other : names ≠ key.names) :
    between.DirectoryAt (root ++ names) ↔ files'.DirectoryAt (root ++ names) := by
  rw [puts.after, ← puts.fits.directory_iff (Puts.elsewhere other)]

theorem Puts.short_names (clear : cache.Clear files key) :
    ∀ name ∈ key.names, name.utf8ByteSize ≤ greatestName := by
  have down := Path.not_back key.directory_names_plain
  obtain ⟨place, -, reached⟩ := resolve_below (fun place located =>
    (clear.no_link_grown puts.made.toGrows located).shorter (List.prefix_append _ _))
    down puts.directory
  rw [CacheKey.names_eq, List.forall_mem_append, List.forall_mem_singleton]
  exact ⟨short_of_reached down reached, puts.short⟩

end Putting

def putAll (cache : CacheDirectory) (entries : List CacheEntry) (files : FileTree) :
    Except Failure FileTree :=
  entries.foldlM (fun files entry => cache.put entry.key entry.record files) files

section Holding

/-- Below the cache's directory stand the documents of the last entries and the directories on the
way to documents, and nothing else. -/
structure Holds (cache : CacheDirectory) (entries : List CacheEntry) (root : List String)
    (files : FileTree) : Prop where
  located : files.locate cache.root = .ok root
  documents : ∀ names content, files.get? (root ++ names) = some (.file content) ↔
    ∃ entry, CacheEntry.lastAt entries entry.key.path = some entry ∧ entry.key.names = names ∧
      entry.write.toUTF8 = content
  directories : ∀ names, files.DirectoryAt (root ++ names) ↔
    names = [] ∨ ∃ entry ∈ entries, names <+: entry.key.directoryNames
  noLink : ∀ names target, files.get? (root ++ names) ≠ some (.link target)
  short : ∀ entry ∈ entries, ∀ name ∈ entry.key.names, name.utf8ByteSize ≤ greatestName
  shortPaths : ∀ entry ∈ entries, (cache.entryPath entry.key).utf8ByteSize ≤ greatestPath
  sound : files.SoundAt root

theorem Holds.nothing (empty : files.find cache.root = .ok .empty) :
    ∃ root, cache.Holds [] root files := by
  obtain ⟨-, root, located, here⟩ := find_ok_iff.1 empty
  have below (names : List String) (some : names ≠ []) : files.get? (root ++ names) = none := by
    rw [get?_append, here, Option.bind_some, get?_empty some]
  have top (names : List String) (found : FileTree)
      (there : files.get? (root ++ names) = .some found) :
      names = [] ∧ found = .empty := by
    by_cases none : names = []
    · subst none
      rw [List.append_nil, here] at there
      exact ⟨rfl, (Option.some.inj there).symm⟩
    · exact nomatch (below names none).symm.trans there
  refine ⟨root, located, ?_, ?_, ?_, fun _ => nofun, fun _ => nofun, ?_⟩
  · intro names content
    refine iff_of_false (fun there => nomatch (top names _ there).2) ?_
    rintro ⟨entry, last, -⟩
    exact nomatch CacheEntry.mem_of_last last
  · intro names
    constructor
    · exact fun ⟨content, there⟩ => .inl (top names _ there).1
    · rintro (rfl | ⟨entry, none, -⟩)
      · exact ⟨[], by rw [List.append_nil, here]; rfl⟩
      · exact nomatch none
  · exact fun names target there => nomatch (top names _ there).2
  · intro found there
    obtain rfl := Option.some.inj (here.symm.trans there)
    exact sound_empty

variable (holds : cache.Holds entries root files)

include holds

theorem Holds.directory : files.DirectoryAt root := by
  have top := (holds.directories []).2 (.inl rfl)
  rwa [List.append_nil] at top

theorem Holds.clear_below (names : List String) : files.ClearBelow root names :=
  fun way _ _ => holds.noLink way

theorem Holds.clear (key : CacheKey) : cache.Clear files key where
  noLink root' located := by
    obtain rfl := Except.ok.inj (holds.located.symm.trans located)
    exact holds.clear_below key.names
  steady := steady_of_located holds.located

theorem Holds.open_below (key : CacheKey) : files.OpenBelow root key.names := by
  intro before name rest found same here
  cases found with
  | directory entries => exact ⟨entries, here⟩
  | link target => exact absurd here (holds.noLink before target)
  | file content =>
      obtain ⟨entry, -, rfl, -⟩ := (holds.documents before content).1 here
      have longer := congrArg List.length same
      rw [List.length_append, key.length_names, entry.key.length_names, List.length_cons] at longer
      omega

/-- Putting an entry makes the directories on its way that are missing, and these only. -/
theorem Holds.made
    (making : files.makeDirectories (Path.parent (cache.entryPath key)) = .ok between) :
    (∀ names, between.DirectoryAt (root ++ names) →
      files.DirectoryAt (root ++ names) ∨ names <+: key.directoryNames) ∧ between.SoundAt root := by
  obtain ⟨-, making⟩ := make_directories_ok.1 making
  rw [names_entry_parent] at making
  have located : files.resolve (greatestLinks + 1) ([] ++ Path.names cache.root) =
      .ok root := holds.located
  rw [make_all_there located holds.directory, List.nil_append] at making
  have clear := holds.clear_below key.directoryNames
  have down := Path.not_back key.directory_names_plain
  constructor
  · intro names directory
    refine (make_all_directories holds.located clear down making directory).imp id ?_
    rintro ⟨way, above, same⟩
    exact List.append_cancel_left same ▸ above
  · exact make_all_sound holds.located clear key.directory_names_plain making holds.sound

theorem Holds.documents_put (puts : Puts cache files files' key record between root)
    (names : List String)
    (content : ByteArray) :
    files'.get? (root ++ names) = some (.file content) ↔
      ∃ entry, CacheEntry.lastAt (entries ++ [⟨key, record⟩]) entry.key.path = some entry ∧
        entry.key.names = names ∧ entry.write.toUTF8 = content := by
  by_cases same : names = key.names
  · subst same
    rw [puts.own, Option.some.injEq, FileTree.file.injEq]
    constructor
    · exact fun same =>
        ⟨⟨key, record⟩, CacheEntry.last_concat_iff.2 (by rw [if_pos rfl]), rfl, same⟩
    · rintro ⟨entry, last, there, content⟩
      rw [CacheEntry.last_concat_iff, if_pos there] at last
      rwa [← last] at content
  · rw [← puts.file_iff same, holds.documents]
    refine exists_congr fun entry => and_congr_left fun ⟨there, _⟩ => ?_
    rw [CacheEntry.last_concat_iff, if_neg (there ▸ same)]

theorem Holds.directories_put (puts : Puts cache files files' key record between root)
    (made : ∀ names, between.DirectoryAt (root ++ names) →
      files.DirectoryAt (root ++ names) ∨ names <+: key.directoryNames) (names : List String) :
    files'.DirectoryAt (root ++ names) ↔
      names = [] ∨ ∃ entry ∈ entries ++ [⟨key, record⟩], names <+: entry.key.directoryNames := by
  have added : (∃ entry ∈ entries ++ [⟨key, record⟩], names <+: entry.key.directoryNames) ↔
      (∃ entry ∈ entries, names <+: entry.key.directoryNames) ∨ names <+: key.directoryNames := by
    simp [or_and_right, exists_or]
  rw [added, ← or_assoc, ← holds.directories]
  by_cases same : names = key.names
  · subst same
    refine iff_of_false (fun ⟨_, there⟩ => nomatch puts.own.symm.trans there) ?_
    rw [holds.directories]
    rintro ((none | ⟨entry, -, above⟩) | above)
    · exact nomatch none
    · exact key.names_not_above _ above
    · exact key.names_not_above _ above
  · rw [← puts.directory_iff same]
    refine ⟨made names, ?_⟩
    rintro (before | above)
    · exact puts.made.directories _ before
    · exact puts.directory_above above

theorem Holds.put (put : cache.put key record files = .ok files') :
    cache.Holds (entries ++ [⟨key, record⟩]) root files' := by
  obtain ⟨shortPath, between, making, replacing⟩ := put_ok.1 put
  obtain ⟨root', puts⟩ := (holds.clear key).puts_of_made shortPath making replacing
  obtain rfl :=
    Except.ok.inj ((resolve_grown puts.made.toGrows holds.located).symm.trans puts.located)
  obtain ⟨made, soundBetween⟩ := holds.made making
  constructor
  case located => exact resolve_grown puts.grows holds.located
  case documents => exact holds.documents_put puts
  case directories => exact holds.directories_put puts made
  case noLink =>
    exact fun names target there => holds.noLink names target ((puts.grows.links _ target).2 there)
  case short =>
    rw [List.forall_mem_append, List.forall_mem_singleton]
    exact ⟨holds.short, puts.short_names (holds.clear key)⟩
  case shortPaths =>
    rw [List.forall_mem_append, List.forall_mem_singleton]
    exact ⟨holds.shortPaths, puts.shortPath⟩
  case sound =>
    rw [puts.after, List.append_assoc, ← CacheKey.names_eq]
    exact soundBetween.set (.file _) key.names_plain

omit holds in
theorem holds_of_puts (empty : files.find cache.root = .ok .empty)
    (put : cache.putAll entries files = .ok files') : ∃ root, cache.Holds entries root files' := by
  induction entries using List.reverseRecOn generalizing files' with
  | nil => exact Except.ok.inj put ▸ Holds.nothing empty
  | append_singleton entries entry ih =>
      rw [putAll, List.foldlM_append] at put
      obtain ⟨between, before, single⟩ := bind_ok.1 put
      rw [List.foldlM_cons] at single
      obtain ⟨after, last, same⟩ := bind_ok.1 single
      obtain rfl := Except.ok.inj same
      obtain ⟨root, holds⟩ := ih before
      exact ⟨root, holds.put last⟩

end Holding

section Reading

/-- On the way to the document of a key a directory is asked for a name that is too long. -/
def AsksLong (entries : List CacheEntry) (key : CacheKey) : Prop :=
  ∃ before name rest, key.names = before ++ name :: rest ∧ greatestName < name.utf8ByteSize ∧
    (before = [] ∨ ∃ entry ∈ entries, before <+: entry.key.directoryNames)

/-- To read the document of a key is refused, for the length of its whole path or of a name on the
way. -/
def Refuses (cache : CacheDirectory) (entries : List CacheEntry) (key : CacheKey) : Prop :=
  greatestPath < (cache.entryPath key).utf8ByteSize ∨ AsksLong entries key

variable (holds : cache.Holds entries root files)

include holds

theorem Holds.get?_names (key : CacheKey) :
    files.get? (root ++ key.names) = (CacheEntry.lastAt entries key.path).map fun entry =>
      FileTree.file entry.write.toUTF8 := by
  cases last : CacheEntry.lastAt entries key.path with
  | some entry =>
      have path := CacheEntry.path_of_last last
      rw [← path] at last
      rw [Option.map_some, holds.documents]
      exact ⟨entry, last, CacheKey.path_eq_iff.1 path, rfl⟩
  | none =>
      cases there : files.get? (root ++ key.names) with
      | none => rfl
      | some found =>
          cases found with
          | file content =>
              obtain ⟨entry, isLast, same, -⟩ := (holds.documents _ _).1 there
              rw [CacheKey.path_eq_iff.2 same, last] at isLast
              exact nomatch isLast
          | link target => exact absurd there (holds.noLink _ target)
          | directory below =>
              obtain none | ⟨entry, -, above⟩ := (holds.directories _).1 ⟨below, there⟩
              · exact nomatch none
              · exact absurd above (key.names_not_above _)

theorem Holds.short_below (fine : ¬ AsksLong entries key) : files.ShortBelow root key.names := by
  intro before name rest same directory
  by_contra long
  exact fine ⟨before, name, rest, same, Nat.lt_of_not_le long,
    (holds.directories before).1 directory⟩

theorem Holds.read_entry (fine : ¬ cache.Refuses entries key)
    (readable : ∀ entry ∈ entries, CacheEntry.read entry.write = some entry) :
    readEntry files (cache.entryPath key) = .ok (CacheEntry.lastAt entries key.path) := by
  obtain ⟨short, fine⟩ := not_or.1 fine
  have found := find_short (Nat.le_of_not_lt short) (cache.names_entry_path key) holds.located
    holds.directory (names_down key) (holds.clear_below _) (holds.short_below fine)
      (holds.open_below key)
  rw [holds.get?_names] at found
  rw [readEntry]
  cases last : CacheEntry.lastAt entries key.path with
  | none =>
      rw [last] at found
      rw [read_text_error found]
  | some entry =>
      rw [last] at found
      rw [read_text_found found (from_to_utf8 entry.write)]
      exact congrArg Except.ok (readable entry (CacheEntry.mem_of_last last))

theorem Holds.get_last (fine : ¬ cache.Refuses entries key)
    (readable : ∀ entry ∈ entries, CacheEntry.read entry.write = some entry) :
    cache.get key files = .ok (((CacheEntry.lastAt entries key.path).filter fun entry =>
      entry.key == key).map CacheEntry.record) := by
  rw [CacheDirectory.get, holds.read_entry fine readable]
  rfl

theorem Holds.get_refused (long : cache.Refuses entries key) :
    cache.get key files = .error (failing "Failed to read cache entry" .nameTooLong) := by
  have failed : files.find (cache.entryPath key) = .error .nameTooLong := by
    rcases long with longPath | ⟨before, name, rest, same, long, above⟩
    · exact find_long_path longPath
    have ways := cache.names_entry_path key
    have down := names_down key
    rw [same] at ways down
    have short : ∀ name ∈ before, name.utf8ByteSize ≤ greatestName := by
      rcases above with rfl | ⟨entry, member, above⟩
      · exact fun _ => nofun
      · intro name isAbove
        refine holds.short entry member name ?_
        rw [CacheKey.names_eq]
        exact List.mem_append_left _ (above.subset isAbove)
    exact find_long ways holds.located holds.directory ((holds.directories before).2 above)
      (fun back => down (List.mem_append_left _ back)) (holds.clear_below _) short long
  rw [CacheDirectory.get, readEntry, read_text_error failed]
  rfl

end Reading

section Listing

theorem path_below_append (base : String) (place more : List String) :
    pathBelow base (place ++ more) = pathBelow (pathBelow base place) more := by
  rw [pathBelow, List.foldl_append]
  rfl

theorem size_path_below_le (base : String) {place : List String}
    (plain : ∀ name ∈ place, Path.Plain name) :
    base.utf8ByteSize ≤ (pathBelow base place).utf8ByteSize := by
  induction place generalizing base with
  | nil => exact Nat.le_refl _
  | cons name place ih =>
      obtain ⟨first, plain⟩ := List.forall_mem_cons.1 plain
      exact (Path.size_join_le base first).trans (ih (Path.join base name) plain)

/-- The path of a key whose document lies in the directory of the cache's version. -/
def pathIn (cache : CacheDirectory) (place : List String) : String :=
  "/".intercalate (safeName cache.version :: place)

theorem path_below_version (cache : CacheDirectory) {place : List String}
    (plain : ∀ name ∈ place, Path.Plain name) :
    pathBelow cache.versionPath place = Path.join cache.root (cache.pathIn place) := by
  induction place using List.reverseRecOn with
  | nil => rw [pathIn, String.intercalate_singleton, pathBelow, List.foldl_nil, versionPath]
  | append_singleton place name ih =>
      obtain ⟨plain, last⟩ := List.forall_mem_append.1 plain
      have last := last name List.mem_cons_self
      have all : ∀ name ∈ safeName cache.version :: place, Path.Plain name :=
        List.forall_mem_cons.2 ⟨safe_name_plain _, plain⟩
      obtain ⟨c, ends, other⟩ := Path.join_last cache.root all (List.cons_ne_nil _ _)
      rw [path_below_append, ih plain, pathIn, pathIn, ← List.cons_append,
        Path.join_concat cache.root all (List.cons_ne_nil _ _) last]
      exact Path.join_below ends other last

theorem names_version_path (cache : CacheDirectory) :
    Path.names cache.versionPath = Path.names cache.root ++ [safeName cache.version] := by
  have below := Path.names_below_path cache.root
    (List.forall_mem_singleton.2 (safe_name_plain cache.version))
  rwa [String.intercalate_singleton] at below

theorem path_in_eq_iff {place : List String} (plain : ∀ name ∈ place, Path.Plain name) :
    key.path = cache.pathIn place ↔ key.names = safeName cache.version :: place := by
  constructor
  · intro same
    have names := congrArg Path.names same
    rwa [pathIn, CacheKey.path, Path.names_intercalate key.names_plain,
      Path.names_intercalate (List.forall_mem_cons.2 ⟨safe_name_plain _, plain⟩)] at names
  · intro same
    rw [CacheKey.path, pathIn, same]

theorem entry_path_below {place : List String}
    (names : key.names = safeName cache.version :: place) :
    cache.entryPath key = pathBelow cache.versionPath place := by
  have plain : ∀ name ∈ place, Path.Plain name := fun name member =>
    key.names_plain name (names ▸ .tail _ member)
  rw [path_below_version cache plain, ← (path_in_eq_iff plain).2 names, entryPath]

theorem split_name_json {stem : List Char} (some : stem ≠ []) :
    (Path.splitName (String.ofList (stem ++ ".json".toList))).2 = .some "json" := by
  have reversed : (stem ++ ".json".toList).reverse =
      ['n', 'o', 's', 'j'] ++ '.' :: stem.reverse := by
    simp
  rw [Path.splitName, String.toList_ofList, reversed]
  simp [some]

theorem extension_file_name (key : CacheKey) : Path.extension key.fileName = some "json" := by
  have plain := key.file_name_plain
  rw [Path.extension, Path.fileName, plain.names, List.getLast?_singleton, Option.filter_some,
    if_pos (bne_iff_ne.2 plain.notDots), Option.bind_some,
    ← String.ofList_toList (s := key.fileName), CacheKey.file_name_text]
  simp only [← List.append_assoc]
  exact split_name_json (by simp)

variable {tree found : FileTree} {place : List String}
variable (holds : cache.Holds entries root files)

include holds

theorem Holds.not_refused (member : entry ∈ entries) : ¬ cache.Refuses entries entry.key := by
  rintro (long | ⟨before, name, rest, same, long, -⟩)
  · exact absurd (holds.shortPaths entry member) (Nat.not_le.2 long)
  · exact absurd (holds.short entry member name (by simp [same])) (Nat.not_le.2 long)

theorem Holds.short_below_version (member : entry ∈ entries)
    (above : safeName cache.version :: place <+: entry.key.names) :
    (pathBelow cache.versionPath place).utf8ByteSize ≤ greatestPath := by
  obtain ⟨rest, names⟩ := above
  rw [List.cons_append] at names
  have plain : ∀ name ∈ rest, Path.Plain name := fun name isName =>
    entry.key.names_plain name (names ▸ .tail _ (List.mem_append_right _ isName))
  have short := holds.shortPaths entry member
  rw [entry_path_below names.symm, path_below_append] at short
  exact (size_path_below_le _ plain).trans short

theorem Holds.find_version :
    (∃ tree, files.find cache.versionPath = .ok tree ∧
        files.get? (root ++ [safeName cache.version]) = some tree) ∨
      (∃ fault, files.find cache.versionPath = .error fault) ∧
        ∀ entry ∈ entries, safeName entry.key.version ≠ safeName cache.version := by
  have split {before rest : List String} {name : String}
      (same : [safeName cache.version] = before ++ name :: rest) :
      before = [] ∧ name = safeName cache.version := by
    obtain ⟨rfl, same⟩ | ⟨_, same, none⟩ := List.cons_eq_append_iff.1 same
    · exact ⟨rfl, (List.cons.inj same).1.symm⟩
    · simp at none
  rcases Nat.lt_or_ge greatestPath cache.versionPath.utf8ByteSize with longPath | fits
  · refine .inr ⟨⟨_, find_long_path longPath⟩, fun entry member same => ?_⟩
    have above : [safeName cache.version] <+: entry.key.names := by
      rw [← same]
      exact List.prefix_append [_] _
    exact absurd (holds.short_below_version member above) (Nat.not_le.2 longPath)
  by_cases long : greatestName < (safeName cache.version).utf8ByteSize
  · have ways : Path.names cache.versionPath =
        Path.names cache.root ++ ([] ++ safeName cache.version :: []) := cache.names_version_path
    refine .inr ⟨⟨_, find_long ways holds.located holds.directory ?_ List.not_mem_nil
      (holds.clear_below _) (fun _ => nofun) long⟩, ?_⟩
    · exact (holds.directories []).2 (.inl rfl)
    · intro entry member same
      have short := holds.short entry member _ List.mem_cons_self
      rw [same] at short
      exact absurd short (Nat.not_le.2 long)
  · have down : ".." ∉ [safeName cache.version] :=
      Path.not_back (List.forall_mem_singleton.2 (safe_name_plain cache.version))
    have found := find_short fits cache.names_version_path holds.located holds.directory down
      (holds.clear_below _)
      (fun before name rest same _ => (split same).2 ▸ Nat.not_lt.1 long)
      (fun before name rest _ same _ => (split same).1 ▸ (holds.directories []).2 (.inl rfl))
    cases there : files.get? (root ++ [safeName cache.version]) with
    | some tree =>
        rw [there] at found
        exact .inl ⟨tree, found, rfl⟩
    | none =>
        rw [there] at found
        refine .inr ⟨⟨_, found⟩, fun entry member same => ?_⟩
        have above : [safeName cache.version] <+: entry.key.directoryNames := by
          rw [← same]
          exact List.prefix_append [_] _
        obtain ⟨_, here⟩ := (holds.directories _).2 (.inr ⟨entry, member, above⟩)
        exact nomatch there.symm.trans here

theorem Holds.sound_version (here : files.get? (root ++ [safeName cache.version]) = some tree) :
    tree.Sound := by
  rw [get?_append] at here
  obtain ⟨top, there, below⟩ := Option.bind_eq_some_iff.1 here
  exact (holds.sound top there).get below

omit holds in
theorem is_document {content : ByteArray} (names : key.names = safeName cache.version :: place) :
    isDocument place (.file content) = true := by
  have ends : place.getLast? = some key.fileName := by
    rw [← (List.cons.inj (names : safeName key.version :: key.names.tail = _)).2]
    rfl
  rw [isDocument, ends, Option.bind_some, extension_file_name]
  rfl

omit holds in
theorem get?_version (here : files.get? (root ++ [safeName cache.version]) = some tree)
    (place : List String) : files.get? (root ++ safeName cache.version :: place) =
      tree.get? place := by
  rw [← List.singleton_append, ← List.append_assoc, get?_append, here, Option.bind_some]

/-- Where listing comes to, it meets the document of the last entry at the path of the place, and
nothing if there is no such entry. -/
theorem Holds.read_listed (here : files.get? (root ++ [safeName cache.version]) = some tree)
    (listed : (place, found) ∈ tree.walk)
    (readable : ∀ entry ∈ entries, CacheEntry.read entry.write = some entry) :
    cache.readListed files place found = .ok (CacheEntry.lastAt entries (cache.pathIn place)) := by
  have sound := holds.sound_version here
  have there := (get?_version here place).trans ((mem_walk sound).1 listed).2
  have plain := sound.plain ((mem_walk sound).1 listed).2
  cases found with
  | file content =>
      obtain ⟨entry, last, names, -⟩ := (holds.documents _ _).1 there
      rw [readListed, is_document names, if_pos rfl, ← (path_in_eq_iff plain).2 names,
        ← entry_path_below names]
      exact holds.read_entry (holds.not_refused (CacheEntry.mem_of_last last)) readable
  | link target => exact absurd there (holds.noLink _ target)
  | directory below =>
      obtain none | ⟨entry, member, above⟩ := (holds.directories _).1 ⟨below, there⟩
      · exact nomatch none
      have inside : safeName cache.version :: place <+: entry.key.names :=
        above.trans (entry.key.names_eq ▸ List.prefix_append _ _)
      have checked := check_path_ok.2 (holds.short_below_version member inside)
      have missing : CacheEntry.lastAt entries (cache.pathIn place) = none := by
        refine Option.eq_none_iff_forall_ne_some.2 fun other last => ?_
        have path := CacheEntry.path_of_last last
        have names := (path_in_eq_iff plain).1 path
        rw [← path] at last
        exact nomatch there.symm.trans ((holds.documents _ _).2 ⟨other, last, names, rfl⟩)
      rw [missing, readListed, isDocument]
      simp [FileTree.isFile, FileTree.isDirectory, checked, Except.mapError, Except.map]

theorem Holds.listed_of_last (here : files.get? (root ++ [safeName cache.version]) = some tree)
    (last : CacheEntry.lastAt entries entry.key.path = some entry)
    (version : safeName entry.key.version = safeName cache.version) :
    ∃ place content, entry.key.names = safeName cache.version :: place ∧
      (place, FileTree.file content) ∈ tree.walk := by
  have names : entry.key.names = safeName cache.version :: entry.key.names.tail := by
    rw [← version]
    rfl
  have there := (holds.documents _ _).2 ⟨entry, last, names, rfl⟩
  rw [get?_version here] at there
  exact ⟨_, _, names, (mem_walk (holds.sound_version here)).2 ⟨List.cons_ne_nil _ _, there⟩⟩

omit holds in
theorem map_m_ok {α β ε : Type} {read : α → Except ε β} {value : α → β} {xs : List α}
    (each : ∀ x ∈ xs, read x = .ok (value x)) : xs.mapM read = .ok (xs.map value) := by
  induction xs with
  | nil => rfl
  | cons x rest ih =>
      rw [List.mapM_cons, each x List.mem_cons_self, ih fun y member => each y (.tail _ member)]
      rfl

omit holds in
theorem entries_of_missing {fault : FileFault}
    (missing : files.find cache.versionPath = .error fault) :
    cache.entries files = .ok [] := by
  unfold CacheDirectory.entries
  rw [missing]

omit holds in
theorem entries_of_found (there : files.find cache.versionPath = .ok tree) :
    cache.entries files =
      (tree.walk.mapM fun listed => cache.readListed files listed.1 listed.2).map
      fun found => found.filterMap id := by
  unfold CacheDirectory.entries
  rw [there]

/-- The entries of the version are the last ones at their paths, each of them once. -/
theorem Holds.entries_found
    (readable : ∀ entry ∈ entries, CacheEntry.read entry.write = some entry) :
    ∃ found, cache.entries files = .ok found ∧ (found.map fun entry => entry.key.path).Nodup ∧
      ∀ entry, entry ∈ found ↔ CacheEntry.lastAt entries entry.key.path = some entry ∧
        safeName entry.key.version = safeName cache.version := by
  obtain ⟨tree, there, here⟩ | ⟨⟨fault, missing⟩, none⟩ := holds.find_version
  · have sound := holds.sound_version here
    have plain {listed : List String × FileTree} (member : listed ∈ tree.walk) :=
      sound.plain ((mem_walk sound).1 member).2
    have read : ∀ listed ∈ tree.walk, cache.readListed files listed.1 listed.2 =
        .ok (CacheEntry.lastAt entries (cache.pathIn listed.1)) := fun listed member =>
      holds.read_listed here member readable
    refine ⟨tree.walk.filterMap fun listed => CacheEntry.lastAt entries (cache.pathIn listed.1),
      ?_, ?_, fun entry => ?_⟩
    · rw [entries_of_found there, map_m_ok read, Except.map, List.filterMap_map, Function.id_comp]
    · rw [List.Nodup, List.pairwise_map, List.pairwise_filterMap]
      have once := List.pairwise_map.1 (walk_nodup sound)
      refine once.imp_of_mem fun {one two} member member' apart entry last other last' same => ?_
      have names := (path_in_eq_iff (plain member)).1 (CacheEntry.path_of_last last)
      have names' := (path_in_eq_iff (plain member')).1 (CacheEntry.path_of_last last')
      rw [← CacheKey.path_eq_iff.1 same, names] at names'
      exact apart (List.cons.inj names').2
    · rw [List.mem_filterMap]
      constructor
      · rintro ⟨listed, member, last⟩
        have path := CacheEntry.path_of_last last
        have names := (path_in_eq_iff (plain member)).1 path
        rw [← path] at last
        exact ⟨last, (List.cons.inj names).1⟩
      · rintro ⟨last, version⟩
        obtain ⟨place, content, names, listed⟩ := holds.listed_of_last here last version
        refine ⟨_, listed, ?_⟩
        rw [← (path_in_eq_iff (plain listed)).2 names, last]
  · refine ⟨[], entries_of_missing missing, List.nodup_nil, fun entry => ?_⟩
    refine iff_of_false (fun member => nomatch member) fun ⟨last, version⟩ => ?_
    exact none entry (CacheEntry.mem_of_last last) version

end Listing

end CacheDirectory

section Names

theorem cleaned_undivided (text : String) : ∀ c ∈ cleaned text, endsName c = false := by
  intro c member
  obtain ⟨d, -, rfl⟩ := List.mem_map.1 member
  by_cases ends : endsName d = true
  · rw [if_pos ends]
    rfl
  · rw [if_neg ends]
    exact Bool.eq_false_iff.2 ends

theorem safe_name_undivided (text : String) : ∀ c ∈ (safeName text).toList, endsName c = false := by
  rw [safe_name_eq, String.toList_ofList]
  split
  · simp only [guarded, List.mem_cons, List.mem_append, List.not_mem_nil, or_false]
    rintro c ((rfl | member) | rfl)
    · rfl
    · exact cleaned_undivided text c member
    · rfl
  · exact cleaned_undivided text

theorem CacheKey.file_name_undivided (key : CacheKey) :
    ∀ c ∈ key.fileName.toList, endsName c = false := by
  have digits (n : Nat) : ∀ c ∈ Decimal.digitChars n, endsName c = false := by
    intro c member
    have digit := isDigit_of_mem_digitChars member
    by_contra ends
    rw [Bool.not_eq_false, endsName, Bool.or_eq_true, Bool.or_eq_true, beq_iff_eq, beq_iff_eq,
      beq_iff_eq] at ends
    rcases ends with (rfl | rfl) | rfl <;> contradiction
  have word (text : String) (undivided : (text.toList.all fun c => !endsName c) = true) :
      ∀ c ∈ text.toList, endsName c = false := by
    simpa using undivided
  rw [CacheKey.file_name_text]
  simp only [List.forall_mem_append]
  exact ⟨word "iter_" rfl, digits _, word "__iter_" rfl, digits _, word ".json" rfl⟩

theorem CacheKey.names_undivided (key : CacheKey) :
    ∀ name ∈ key.names, ∀ c ∈ name.toList, endsName c = false := by
  rw [names_eq, List.forall_mem_append, List.forall_mem_singleton]
  refine ⟨?_, key.file_name_undivided⟩
  simp only [directoryNames, List.forall_mem_cons]
  exact ⟨safe_name_undivided _, safe_name_undivided _, safe_name_undivided _, safe_name_undivided _,
    safe_name_undivided _, List.forall_mem_nil _⟩

/-- The path of a key has six names, and none of them stands for a place or is divided. -/
theorem CacheKey.path_names (key : CacheKey) :
    Path.names key.path = key.names ∧ key.names.length = 6 ∧
      ∀ name ∈ key.names, name ≠ "" ∧ name ≠ "." ∧ name ≠ ".." ∧
      ∀ c ∈ name.toList, endsName c = false := by
  refine ⟨Path.names_intercalate key.names_plain, key.length_names, fun name member => ?_⟩
  have plain := key.names_plain name member
  exact ⟨plain.filled, plain.notDot, plain.notDots, key.names_undivided name member⟩

end Names

section Contents

variable {cache : CacheDirectory} {files after : FileTree} {entries : List CacheEntry}

/-- After puts into an empty directory the cache serves a record under a key exactly if the last
entry at the path of the key is this record under this key. Otherwise it serves nothing, or fails if
the path of the document is too long or a directory is asked for a name that is too long. It lists
the last entry at each path of its version, each of them once; below its directory there are no
files but the documents of the last entries, six plain names deep. -/
theorem cache_holds_last_entries (empty : files.find cache.root = .ok .empty)
    (put : cache.putAll entries files = .ok after)
    (readable : ∀ entry ∈ entries, CacheEntry.read entry.write = some entry) :
    (∀ key record, cache.get key after = .ok (some record) ↔
      CacheEntry.lastAt entries key.path = some ⟨key, record⟩) ∧
    (∀ key, (∀ record, CacheEntry.lastAt entries key.path ≠ some ⟨key, record⟩) →
      (¬ cache.Refuses entries key → cache.get key after = .ok none) ∧
        (cache.Refuses entries key → cache.get key after =
          .error (CacheDirectory.failing "Failed to read cache entry" .nameTooLong))) ∧
    (∃ found, cache.entries after = .ok found ∧ (found.map fun entry => entry.key.path).Nodup ∧
      ∀ entry, entry ∈ found ↔ CacheEntry.lastAt entries entry.key.path = some entry ∧
        safeName entry.key.version = safeName cache.version) ∧
    ∃ root, after.locate cache.root = .ok root ∧
      (∀ names content, after.get? (root ++ names) = some (.file content) ↔
        ∃ entry, CacheEntry.lastAt entries entry.key.path = some entry ∧ entry.key.names = names ∧
          entry.write.toUTF8 = content) ∧
      ∀ key : CacheKey, Path.names key.path = key.names ∧ key.names.length = 6 ∧
        ∀ name ∈ key.names, name ≠ "" ∧ name ≠ "." ∧ name ≠ ".." ∧
          ∀ c ∈ name.toList, endsName c = false := by
  obtain ⟨root, holds⟩ := CacheDirectory.holds_of_puts empty put
  have served (key : CacheKey) (record : Record) : cache.get key after = .ok (some record) ↔
      CacheEntry.lastAt entries key.path = some ⟨key, record⟩ := by
    by_cases long : cache.Refuses entries key
    · rw [holds.get_refused long]
      refine iff_of_false nofun fun last => ?_
      exact holds.not_refused (CacheEntry.mem_of_last last) long
    · rw [holds.get_last long readable, Except.ok.injEq, Option.map_eq_some_iff]
      constructor
      · rintro ⟨⟨_, _⟩, kept, rfl⟩
        obtain ⟨last, same⟩ := Option.filter_eq_some_iff.1 kept
        obtain rfl := eq_of_beq same
        exact last
      · exact fun last => ⟨_, Option.filter_eq_some_iff.2 ⟨last, beq_self_eq_true key⟩, rfl⟩
  refine ⟨served, fun key other => ⟨fun fine => ?_, holds.get_refused⟩,
    holds.entries_found readable, root, holds.located, holds.documents, CacheKey.path_names⟩
  rw [holds.get_last fine readable]
  refine congrArg Except.ok (Option.eq_none_iff_forall_ne_some.2 fun record same => other record ?_)
  rw [← served, holds.get_last fine readable, same]

def emptyCacheTree : FileTree := .directory [("similarity_analysis", .empty)]

def firstCache : CacheDirectory := ⟨"similarity_analysis", "v1"⟩

def refreshedEntries : List CacheEntry :=
  [⟨pairKey "v1" "c" "old", emptyRecord⟩, ⟨pairKey "v1" "c" "new", emptyRecord⟩]

def refreshedTree (fingerprint : String) : FileTree :=
  ["similarity_analysis", "v1", "c", "p", "t", "m"].foldr
    (fun name tree => .directory [(name, tree)])
    (.directory [("iter_0__iter_1.json",
      .file (CacheEntry.write ⟨pairKey "v1" "c" fingerprint, emptyRecord⟩).toUTF8)])

theorem put_refreshed : firstCache.putAll refreshedEntries emptyCacheTree =
    .ok (refreshedTree "new") := by
  have first : firstCache.put (pairKey "v1" "c" "old") emptyRecord emptyCacheTree =
      .ok (refreshedTree "old") := rfl
  have second : firstCache.put (pairKey "v1" "c" "new") emptyRecord (refreshedTree "old") =
      .ok (refreshedTree "new") := rfl
  rw [CacheDirectory.putAll, refreshedEntries, List.foldlM_cons]
  refine CacheDirectory.bind_ok.2 ⟨_, first, ?_⟩
  rw [List.foldlM_cons]
  exact CacheDirectory.bind_ok.2 ⟨_, second, rfl⟩

theorem refreshed_entries_readable :
    ∀ entry ∈ refreshedEntries, CacheEntry.read entry.write = some entry :=
  List.forall_mem_cons.2 ⟨CacheEntry.read_write (empty_record_writable _ _ _),
    List.forall_mem_singleton.2 (CacheEntry.read_write (empty_record_writable _ _ _))⟩

theorem refreshed_last (fingerprint : String) :
    CacheEntry.lastAt refreshedEntries (pairKey "v1" "c" fingerprint).path =
      some ⟨pairKey "v1" "c" "new", emptyRecord⟩ := by
  have path : (pairKey "v1" "c" "new").path = (pairKey "v1" "c" fingerprint).path := rfl
  exact (CacheEntry.last_at_concat [_] _ _).trans (if_pos path)

/-- After the content of an artifact has changed, its old entry is not served any more. -/
theorem old_entry_is_not_served :
    emptyCacheTree.find firstCache.root = .ok .empty ∧
      firstCache.putAll refreshedEntries emptyCacheTree = .ok (refreshedTree "new") ∧
      firstCache.get (pairKey "v1" "c" "new") (refreshedTree "new") = .ok (some emptyRecord) ∧
      firstCache.get (pairKey "v1" "c" "old") (refreshedTree "new") = .ok none := by
  have empty : emptyCacheTree.find firstCache.root = .ok .empty := rfl
  obtain ⟨served, missing, -⟩ :=
    cache_holds_last_entries empty put_refreshed refreshed_entries_readable
  refine ⟨empty, put_refreshed, (served _ _).2 (refreshed_last "new"),
    (missing _ fun record last => ?_).1 ?_⟩
  · rw [refreshed_last] at last
    have fingerprint : "new" = "old" := congrArg CacheKey.referenceFingerprint
      (congrArg CacheEntry.key (Option.some.inj last))
    exact absurd fingerprint (by decide)
  · have fits : (firstCache.entryPath (pairKey "v1" "c" "old")).utf8ByteSize ≤ greatestPath := by
      decide +kernel
    have short : ∀ name ∈ (pairKey "v1" "c" "old").names, name.utf8ByteSize ≤ greatestName := by
      decide +kernel
    rintro (long | ⟨before, name, rest, same, long, -⟩)
    · exact absurd fits (Nat.not_le.2 long)
    · exact absurd (short name (by simp [same])) (Nat.not_le.2 long)

def letterRun (length : Nat) : String := String.ofList (List.replicate length 'v')

theorem letter_run_size (length : Nat) :
    (safeName (letterRun (length + 1))).utf8ByteSize = length + 1 := by
  have kept : cleaned (letterRun (length + 1)) = List.replicate (length + 1) 'v' := by
    rw [cleaned, letterRun, String.toList_ofList, List.map_replicate]
    rfl
  have noPlace : List.replicate (length + 1) 'v' ∉ placeNames := by
    simp [placeNames, List.replicate_succ]
  rw [safe_name_eq, kept, if_neg noPlace, String.utf8ByteSize_ofList]
  generalize length + 1 = count
  induction count with
  | zero => rfl
  | succ count ih =>
      rw [List.replicate_succ, String.utf8Len_cons, ih]
      rfl

/-- Under a version that is too long an empty cache does not answer that it has nothing, but
fails. -/
theorem long_version_fails_to_read :
    emptyCacheTree.find firstCache.root = .ok .empty ∧
      firstCache.putAll [] emptyCacheTree = .ok emptyCacheTree ∧
      CacheEntry.lastAt [] (pairKey (letterRun 256) "c" "a").path = none ∧
      firstCache.get (pairKey (letterRun 256) "c" "a") emptyCacheTree =
        .error (CacheDirectory.failing "Failed to read cache entry" .nameTooLong) := by
  have empty : emptyCacheTree.find firstCache.root = .ok .empty := rfl
  have long : greatestName < (safeName (letterRun 256)).utf8ByteSize :=
    Nat.lt_of_lt_of_eq (by decide) (letter_run_size 255).symm
  obtain ⟨root, holds⟩ := CacheDirectory.Holds.nothing empty
  exact ⟨empty, rfl, rfl, holds.get_refused
    (.inr ⟨[], safeName (letterRun 256), _, rfl, long, .inl rfl⟩)⟩

end Contents

end Resemblance
