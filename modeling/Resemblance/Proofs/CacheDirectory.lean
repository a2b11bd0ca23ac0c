import Resemblance.Proofs.CachePaths
import Resemblance.Proofs.Documents
import Resemblance.Proofs.FileTree

/-!
The cache in its directory: what was put under a key is read under it, and putting leaves the
documents of other keys alone. Links may lead to the cache's directory, but none may lie inside it
on the way to a document, since two keys could then share a document.
-/

namespace Resemblance.CacheDirectory

open FileTree

variable {cache : CacheDirectory} {files files' : FileTree} {key other : CacheKey} {record : Record}
variable {text : String}

@[simp] theorem store_version (cache : CacheDirectory) : cache.store.version = cache.version := by
  rw [store]

@[simp] theorem store_get (cache : CacheDirectory) : cache.store.get = cache.get := by
  rw [store]

@[simp] theorem store_put (cache : CacheDirectory) : cache.store.put = cache.put := by
  rw [store]

/-- No link lies in the cache's directory on the way to the document of a key, and the path of the
cache does not lead out of a missing directory, by a step back, to something that is there. -/
structure Clear (cache : CacheDirectory) (files : FileTree) (key : CacheKey) : Prop where
  noLink : ∀ root, files.locate cache.root = .ok root → files.ClearBelow root key.names
  steady : files.Steady cache.root

/-- The cache serves a record under a key. -/
def Serves (cache : CacheDirectory) (files : FileTree) (key : CacheKey) : Prop :=
  ∃ record, cache.get key files = .ok (some record)

/-- A tree with more in it than another, to which the path of the cache leads as steadily. -/
structure Follows (cache : CacheDirectory) (files files' : FileTree) : Prop extends
    Grows files files' where
  steady : files.Steady cache.root → files'.Steady cache.root

theorem Follows.refl (cache : CacheDirectory) (files : FileTree) : cache.Follows files files :=
  ⟨.refl files, id⟩

theorem Follows.trans {between : FileTree} (first : cache.Follows files between)
    (second : cache.Follows between files') : cache.Follows files files' :=
  ⟨first.toGrows.trans second.toGrows, second.steady ∘ first.steady⟩

/-- Where something stands already, the path of the cache leads there already. -/
theorem Clear.located_before {root names : List String} {found : FileTree}
    (clear : cache.Clear files key)
    (grown : Grows files files') (located : files'.locate cache.root = .ok root)
    (here : files.get? (root ++ names) = some found) : files.locate cache.root = .ok root := by
  cases names with
  | nil => exact clear.steady _ _ _ grown located (List.append_nil root ▸ here)
  | cons name rest =>
      obtain ⟨entries, stands⟩ := directory_above here
      exact clear.steady _ _ _ grown located stands

theorem Clear.no_link_grown {root : List String} (clear : cache.Clear files key)
    (grown : Grows files files') (located : files'.locate cache.root = .ok root) :
    files'.ClearBelow root key.names := by
  intro way above some target here
  have here := (grown.links _ target).2 here
  exact clear.noLink root (clear.located_before grown located here) way above some target here

theorem Clear.follow (clear : cache.Clear files key) (follows : cache.Follows files files') :
    cache.Clear files' key :=
  ⟨fun _ => clear.no_link_grown follows.toGrows, follows.steady clear.steady⟩

theorem names_down (key : CacheKey) : ".." ∉ key.names :=
  Path.not_back key.names_plain

/-- A document lies below the place of the cache's directory, by the names of its key. -/
theorem Clear.located {goal : List String} (clear : cache.Clear files key)
    (found : files.locate (cache.entryPath key) = .ok goal) :
    ∃ root, files.locate cache.root = .ok root ∧ goal = root ++ key.names ∧
      advance files root key.names = .ok (.reached goal) := by
  rw [locate, names_entry_path] at found
  obtain ⟨root, first, second⟩ := resolve_below clear.noLink (names_down key) found
  exact ⟨root, first, advance_reached (names_down key) second, second⟩

theorem bind_ok {α β ε : Type} {x : Except ε α} {f : α → Except ε β} {b : β} :
    x >>= f = .ok b ↔ ∃ a, x = .ok a ∧ f a = .ok b := by
  cases x <;> simp [bind, Except.bind]

theorem map_error_ok {α ε ε' : Type} {x : Except ε α} {f : ε → ε'} {a : α} :
    x.mapError f = .ok a ↔ x = .ok a := by
  cases x <;> simp [Except.mapError]

theorem bind_error {α β ε : Type} {x : Except ε α} {f : α → Except ε β} {e : ε} :
    x >>= f = .error e ↔ x = .error e ∨ ∃ a, x = .ok a ∧ f a = .error e := by
  cases x <;> simp [bind, Except.bind]

theorem map_error_error {α ε ε' : Type} {x : Except ε α} {f : ε → ε'} {e : ε'} :
    x.mapError f = .error e ↔ ∃ fault, x = .error fault ∧ f fault = e := by
  cases x <;> simp [Except.mapError]

theorem check_temporary_ok {path : String} :
    checkTemporary path = .ok () ↔ path.utf8ByteSize + temporaryExcess ≤ greatestPath := by
  rw [checkTemporary]
  split
  · rename_i long
    exact iff_of_false nofun (Nat.not_le.2 long)
  · rename_i short
    exact iff_of_true rfl (Nat.not_lt.1 short)

theorem put_ok : cache.put key record files = .ok files' ↔
    (cache.entryPath key).utf8ByteSize + temporaryExcess ≤ greatestPath ∧
      ∃ between, files.makeDirectories (Path.parent (cache.entryPath key)) = .ok between ∧
        between.replace (cache.entryPath key) (.file (CacheEntry.write ⟨key, record⟩).toUTF8) =
          .ok files' := by
  simp only [CacheDirectory.put, bind_ok, map_error_ok, ← check_temporary_ok]
  constructor
  · rintro ⟨between, making, _, short, replacing⟩
    exact ⟨short, between, making, replacing⟩
  · rintro ⟨short, between, making, replacing⟩
    exact ⟨between, making, (), short, replacing⟩

/-- What putting a record does to the tree: the directories on the way are made, and the document is
put into the last of them. -/
structure Puts (cache : CacheDirectory) (files files' : FileTree) (key : CacheKey) (record : Record)
    (between : FileTree) (root : List String) : Prop where
  made : Extends files between
  shortPath : (cache.entryPath key).utf8ByteSize ≤ greatestPath
  located : between.locate cache.root = .ok root
  directory : between.resolve (greatestLinks + 1) (Path.names cache.root ++ key.directoryNames) =
    .ok (root ++ key.directoryNames)
  short : key.fileName.utf8ByteSize ≤ greatestName
  fits : Fits between (root ++ key.directoryNames) key.fileName
    (.file (CacheEntry.write ⟨key, record⟩).toUTF8)
  after : files' = between.set (.file (CacheEntry.write ⟨key, record⟩).toUTF8)
    (root ++ key.directoryNames ++ [key.fileName])

theorem Clear.puts_of_made {between : FileTree} (clear : cache.Clear files key)
    (shortPath : (cache.entryPath key).utf8ByteSize + temporaryExcess ≤ greatestPath)
    (making : files.makeDirectories (Path.parent (cache.entryPath key)) = .ok between)
    (replacing : between.replace (cache.entryPath key)
      (.file (CacheEntry.write ⟨key, record⟩).toUTF8) =
      .ok files') : ∃ root, Puts cache files files' key record between root := by
  obtain ⟨-, making⟩ := make_directories_ok.1 making
  rw [names_entry_parent] at making
  obtain ⟨made, goal, found, -⟩ := make_all_ok making (by simp [CacheKey.directoryNames])
  rw [List.nil_append] at found
  have down := Path.not_back key.directory_names_plain
  obtain ⟨root, located, below⟩ := resolve_below (fun root located =>
    (clear.no_link_grown made.toGrows located).shorter (List.prefix_append _ _)) down found
  obtain rfl := advance_reached down below
  have ends : Path.names (cache.entryPath key) =
      Path.names cache.root ++ key.directoryNames ++ [key.fileName] := by
    rw [names_entry_path, CacheKey.names_eq, List.append_assoc]
  obtain ⟨place, same, directory, short, noDirectory, after⟩ :=
    replace_ok key.file_name_plain.notDots ends replacing
  obtain rfl := Except.ok.inj (found.symm.trans same)
  refine ⟨root, made, Nat.le_of_add_right_le shortPath, located, found, short,
    ⟨directory, noDirectory, ?_, rfl, by simp⟩, after⟩
  rw [List.append_assoc, ← CacheKey.names_eq]
  exact clear.no_link_grown made.toGrows located key.names (List.prefix_refl _)
    (by simp [CacheKey.names])

theorem Clear.puts (clear : cache.Clear files key) (put : cache.put key record files = .ok files') :
    ∃ between root, Puts cache files files' key record between root := by
  obtain ⟨short, between, making, replacing⟩ := put_ok.1 put
  exact ⟨between, clear.puts_of_made short making replacing⟩

theorem from_to_utf8 (text : String) : String.fromUTF8? text.toUTF8 = some text := by
  rw [String.fromUTF8?, String.toUTF8_eq_toByteArray, dif_pos text.isValidUTF8]
  rfl

section Put

variable {between : FileTree} {root names : List String}
variable (puts : Puts cache files files' key record between root)

include puts

theorem Puts.grows : Grows files files' :=
  puts.made.toGrows.trans (puts.after ▸ puts.fits.grows)

theorem Puts.located_after : files'.locate cache.root = .ok root :=
  resolve_grown (puts.after ▸ puts.fits.grows) puts.located

theorem Puts.follows : cache.Follows files files' :=
  ⟨puts.grows, fun _ => steady_of_located puts.located_after⟩

theorem Puts.own :
    files'.get? (root ++ key.names) = some (.file (CacheEntry.write ⟨key, record⟩).toUTF8) := by
  rw [puts.after, CacheKey.names_eq, ← List.append_assoc]
  exact get?_set _ _ _

omit puts in
theorem Puts.elsewhere (other : names ≠ key.names) :
    root ++ names ≠ root ++ key.directoryNames ++ [key.fileName] := by
  rwa [List.append_assoc, ← CacheKey.names_eq, Ne, List.append_right_inj]

theorem Puts.file_iff {content : ByteArray} (other : names ≠ key.names) :
    files.get? (root ++ names) = some (.file content) ↔
      files'.get? (root ++ names) = some (.file content) := by
  rw [puts.after, ← puts.fits.file_iff (Puts.elsewhere other), puts.made.files]

theorem Puts.read_own :
    files'.readText (cache.entryPath key) = .ok (CacheEntry.write ⟨key, record⟩) := by
  refine read_text_ok.2 ⟨puts.shortPath, _, _, ?_, puts.own, from_to_utf8 _⟩
  rw [locate, names_entry_path, puts.after]
  simp only [CacheKey.names_eq, ← List.append_assoc]
  exact puts.fits.resolve_set key.file_name_plain.notDots puts.directory puts.short

theorem Puts.read_other (clear : cache.Clear files other) (apart : other.names ≠ key.names) :
    files'.readText (cache.entryPath other) = .ok text ↔
      files.readText (cache.entryPath other) = .ok text := by
  have file_iff {root' : List String} {content : ByteArray}
      (located : files'.locate cache.root = .ok root') :
      files.get? (root' ++ other.names) = some (.file content) ↔
        files'.get? (root' ++ other.names) = some (.file content) := by
    obtain rfl := Except.ok.inj (puts.located_after.symm.trans located)
    exact puts.file_iff apart
  constructor
  · intro held
    obtain ⟨short, place, content, found, here, decoded⟩ := read_text_ok.1 held
    obtain ⟨root', located, rfl, below⟩ := (clear.follow puts.follows).located found
    have here := (file_iff located).2 here
    have before := clear.located_before puts.grows located here
    obtain ⟨below, -⟩ := advance_shrunk puts.grows (names_down other) below fun goal same =>
      ⟨_, Arrival.reached.inj same ▸ here⟩
    refine read_text_ok.2 ⟨short, _, content, ?_, here, decoded⟩
    rw [locate, names_entry_path]
    exact resolve_append before below
  · intro held
    obtain ⟨short, place, content, found, here, decoded⟩ := read_text_ok.1 held
    obtain ⟨root', located, rfl, -⟩ := clear.located found
    exact read_text_ok.2 ⟨short, _, content, resolve_grown puts.grows found,
      (file_iff (resolve_grown puts.grows located)).1 here, decoded⟩

end Put

theorem get_written {entry : CacheEntry}
    (held : files.readText (cache.entryPath key) = .ok entry.write)
    (writable : entry.Writable) :
    cache.get key files = .ok (if entry.key = key then some entry.record else none) := by
  rw [CacheDirectory.get, readEntry, held]
  simp only [CacheEntry.read_write writable, Except.map, Option.filter_some]
  by_cases same : entry.key = key
  · simp [same]
  · simp [same]

/-- An entry is served under its own key only, wherever its document was found. -/
theorem get_found {entry : CacheEntry}
    (found : files.find (cache.entryPath key) = .ok (.file entry.write.toUTF8))
    (writable : entry.Writable) :
    cache.get key files = .ok (if entry.key = key then some entry.record else none) := by
  obtain ⟨short, place, located, here⟩ := find_ok_iff.1 found
  exact get_written (read_text_ok.2 ⟨short, place, _, located, here, from_to_utf8 _⟩) writable

/-- What is served under a key depends on the text of its document alone. -/
theorem served_of_same_text {served : Record}
    (same : ∀ text, files.readText (cache.entryPath key) = .ok text →
      files'.readText (cache.entryPath key) = .ok text)
    (found : cache.get key files = .ok (some served)) :
    cache.get key files' = .ok (some served) := by
  rw [CacheDirectory.get, readEntry] at found ⊢
  split at found
  · rename_i text held
    rw [same text held]
    exact found
  · simp [Except.map] at found
  · simp [Except.map] at found

theorem Puts.get_own {between : FileTree} {root : List String}
    (puts : Puts cache files files' key record between root)
    (writable : CacheEntry.Writable ⟨key, record⟩) : cache.get key files' = .ok (some record) :=
  (get_written puts.read_own writable).trans (by rw [if_pos rfl])

theorem Puts.get_other {between : FileTree} {root : List String} {served : Record}
    (puts : Puts cache files files' key record between root) (clear : cache.Clear files other)
    (apart : other.names ≠ key.names) :
    cache.get other files' = .ok (some served) ↔ cache.get other files = .ok (some served) :=
  ⟨served_of_same_text fun _ => (puts.read_other clear apart).1,
    served_of_same_text fun _ => (puts.read_other clear apart).2⟩

theorem put_refused {refusal : Failure} (refused : cache.put key record files = .error refusal) :
    refusal.isFatal = true := by
  rw [CacheDirectory.put] at refused
  obtain failed | ⟨between, -, failed⟩ := bind_error.1 refused
  · obtain ⟨fault, -, rfl⟩ := map_error_error.1 failed
    rfl
  obtain failed | ⟨_, -, failed⟩ := bind_error.1 failed
  · obtain ⟨fault, -, rfl⟩ := map_error_error.1 failed
    rfl
  · obtain ⟨fault, -, rfl⟩ := map_error_error.1 failed
    rfl

end Resemblance.CacheDirectory
