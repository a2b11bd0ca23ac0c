import Resemblance.Proofs.Directories
import Resemblance.Proofs.Verdicts

/-!
Forced runs over a cache whose directories stand already. Nothing is in the way of a document, so
the record of every pair can be put, and the run returns with the verdicts of all its pairs.
-/

namespace Resemblance

section Ready

open FileTree

variable {cache : CacheDirectory} {files : FileTree} {key other : CacheKey} {record : Record}

/-- The directory of a document stands, and in the place of the document nothing but a file. -/
structure CacheDirectory.Ready (cache : CacheDirectory) (files : FileTree)
    (key : CacheKey) : Prop where
  shortPath : (cache.entryPath key).utf8ByteSize + temporaryExcess ≤ greatestPath
  short : key.fileName.utf8ByteSize ≤ greatestName
  place : ∃ place,
    files.resolve (greatestLinks + 1) (Path.names cache.root ++ key.directoryNames) = .ok place ∧
    files.DirectoryAt place ∧
    ∀ value, files.get? (place ++ [key.fileName]) = some value → value.isFile = true

theorem CacheDirectory.put_there {place : List String}
    (shortPath : (cache.entryPath key).utf8ByteSize + temporaryExcess ≤ greatestPath)
    (found : files.resolve (greatestLinks + 1) (Path.names cache.root ++ key.directoryNames) =
      .ok place)
    (fits : Fits files place key.fileName (.file (CacheEntry.write ⟨key, record⟩).toUTF8))
    (short : key.fileName.utf8ByteSize ≤ greatestName) :
    cache.put key record files =
      .ok (files.set (.file (CacheEntry.write ⟨key, record⟩).toUTF8)
        (place ++ [key.fileName])) := by
  have fitsPath : (cache.entryPath key).utf8ByteSize ≤ greatestPath :=
    Nat.le_of_add_right_le shortPath
  have made : files.makeDirectories (Path.parent (cache.entryPath key)) = .ok files := by
    refine make_directories_ok.2 ⟨(cache.size_entry_parent_le key).trans fitsPath, ?_⟩
    rw [names_entry_parent, ← List.append_nil (Path.names cache.root ++ key.directoryNames)]
    have found : files.resolve (greatestLinks + 1)
        ([] ++ (Path.names cache.root ++ key.directoryNames)) = .ok place := found
    exact (make_all_there found fits.above).trans rfl
  have replaced : files.replace (cache.entryPath key)
      (.file (CacheEntry.write ⟨key, record⟩).toUTF8) =
      .ok (files.set (.file (CacheEntry.write ⟨key, record⟩).toUTF8)
          (place ++ [key.fileName])) := by
    have located :=
      (locate_name_ok key.file_name_plain.notDots).2 ⟨place, found, fits.above, short, rfl⟩
    rw [replace, check_path_ok.2 fitsPath, names_entry_path, CacheKey.names_eq, ← List.append_assoc,
      located]
    simp only [bind, Except.bind]
    split
    · rename_i entries here
      exact absurd ⟨entries, here⟩ fits.noDirectory
    · rfl
  exact put_ok.2 ⟨shortPath, files, made, replaced⟩

theorem CacheDirectory.Ready.put (ready : cache.Ready files key) (record : Record) :
    ∃ files', cache.put key record files = .ok files' ∧
      ∀ other, cache.Ready files other → cache.Ready files' other := by
  obtain ⟨shortPath, short, place, found, directory, free⟩ := ready
  have fits : Fits files place key.fileName (.file (CacheEntry.write ⟨key, record⟩).toUTF8) :=
    .of_free directory free rfl nofun
  refine ⟨_, CacheDirectory.put_there shortPath found fits short, fun other ready => ?_⟩
  obtain ⟨shortPath, short, place', found', directory', free'⟩ := ready
  refine ⟨shortPath, short, place', resolve_grown fits.grows found',
    fits.grows.directories _ directory', ?_⟩
  intro value here
  by_cases same : place' ++ [other.fileName] = place ++ [key.fileName]
  · rw [same, get?_set] at here
    exact Option.some.inj here ▸ rfl
  · cases value with
    | file content => rfl
    | link target => exact free' _ ((fits.grows.links _ target).2 here)
    | directory entries =>
        obtain ⟨entries', here⟩ := (fits.directory_iff same).2 ⟨entries, here⟩
        exact absurd (free' _ here) Bool.false_ne_true

end Ready

section Forced

variable {cache : CacheDirectory} {start : Calculator} {sources : String → Prop} {limit : Duration}
variable {force : Bool} {key : CacheKey} {job : Job} {state : RunState FileTree}
  {run : Run FileTree}
variable {files : FileTree} {jobs : List Job}

namespace RunState

theorem Concluded.put {result : PairOutcome × RunState FileTree} {held held' : FileTree}
    (concluded : Concluded ⟨cache.store, limit, force⟩ start sources .whole key job held result)
    (ids : key.reference = job.referenceId ∧ key.candidate = job.candidateId)
    (inTime : start.InTime limit) (put : cache.put key (job.verdict start).2 held = .ok held') :
    ∃ after, start.Knows sources after ∧ result = (job.outcome start, ⟨after, held'⟩) := by
  cases concluded with
  | late after late => exact absurd inTime late
  | settled knows =>
      refine ⟨_, knows, ?_⟩
      rw [settle, if_pos rfl]
      simp only [CacheDirectory.store_put, put]
  | failed knows verdict =>
      refine ⟨_, knows, ?_⟩
      rw [verdict] at put
      simp only [settleFailure, CacheDirectory.store_put, put]
      rw [Job.outcome_of_failed verdict, ids.1, ids.2]

end RunState

end Forced

end Resemblance
