import Resemblance.Experiment
import Resemblance.Proofs.OrderedPairs
import Resemblance.Proofs.SharedDocuments
import Resemblance.Proofs.SoundTrees

/-!
What is discovered in an experiment. Artifacts are listed in the order of their ids. An id keeps the
number of an iteration but not its spelling, so an id is listed twice exactly if one number is the
name of two iterations; apart from that, two pairs of artifacts share a document only if their names
are alike.
-/

namespace Resemblance

namespace ArtifactId

variable {id id' id'' : ArtifactId}

def outer (id : ArtifactId) : List String :=
  [id.challenge, id.prompt, id.temperature]

theorem le_iff : id.le id' = true ↔
    id.outer ≠ id'.outer ∧ textsLe id.outer id'.outer = true ∨
      id.outer = id'.outer ∧
        (id.iteration < id'.iteration ∨ id.iteration = id'.iteration ∧ id.model ≤ id'.model) := by
  rw [ArtifactId.le]
  change (if id.outer == id'.outer then _ else textsLe id.outer id'.outer) = true ↔ _
  by_cases same : id.outer = id'.outer
  · by_cases iteration : id.iteration = id'.iteration
    · simp [same, iteration, textLe]
    · simp [same, iteration]
  · simp [same]

theorem le_total (id id' : ArtifactId) : id.le id' = true ∨ id'.le id = true := by
  rw [le_iff, le_iff]
  by_cases same : id.outer = id'.outer
  · rcases Nat.lt_trichotomy id.iteration id'.iteration with less | iteration | greater
    · exact .inl (.inr ⟨same, .inl less⟩)
    · exact (String.le_total id.model id'.model).imp (fun le => .inr ⟨same, .inr ⟨iteration, le⟩⟩)
        fun le => .inr ⟨same.symm, .inr ⟨iteration.symm, le⟩⟩
    · exact .inr (.inr ⟨same.symm, .inl greater⟩)
  · exact (texts_le_total id.outer id'.outer).imp (fun le => .inl ⟨same, le⟩)
      fun le => .inl ⟨Ne.symm same, le⟩

theorem le_trans (first : id.le id' = true) (second : id'.le id'' = true) : id.le id'' = true := by
  rw [le_iff] at first second ⊢
  rcases first with ⟨apart, le⟩ | ⟨same, inner⟩
  · rcases second with ⟨-, le'⟩ | ⟨same', -⟩
    · refine .inl ⟨fun same => apart ?_, texts_le_trans le le'⟩
      exact texts_le_antisymm le (same ▸ le')
    · exact .inl ⟨same' ▸ apart, same' ▸ le⟩
  · rcases second with ⟨apart', le'⟩ | ⟨same', inner'⟩
    · exact .inl ⟨same ▸ apart', same ▸ le'⟩
    · refine .inr ⟨same.trans same', ?_⟩
      rcases inner with less | ⟨iteration, model⟩
      · rcases inner' with less' | ⟨iteration', -⟩
        · exact .inl (less.trans less')
        · exact .inl (iteration' ▸ less)
      · rcases inner' with less' | ⟨iteration', model'⟩
        · exact .inl (iteration ▸ less')
        · exact .inr ⟨iteration.trans iteration', String.le_trans model model'⟩

end ArtifactId

namespace Path

variable {name : String} {place : List String}

theorem names_below (base : String) (plain : ∀ name ∈ place, Plain name) :
    names (FileTree.pathBelow base place) = names base ++ place := by
  induction place generalizing base with
  | nil => exact (List.append_nil _).symm
  | cons name place ih =>
      have first := plain name List.mem_cons_self
      rw [FileTree.pathBelow, List.foldl_cons]
      refine (ih _ fun name member => plain name (.tail _ member)).trans ?_
      rw [names_join base first.relative, first.names, List.append_assoc, List.singleton_append]

theorem extension_below (base : String) (plain : ∀ name ∈ place, Plain name)
    (last : place.getLast? = some name) :
    extension (FileTree.pathBelow base place) = (splitName name).2 := by
  have notDots := (plain name (List.mem_of_getLast? last)).notDots
  have some : place ≠ [] := by
    rintro rfl
    exact nomatch last
  rw [extension, fileName, names_below base plain, List.getLast?_append_of_ne_nil _ some, last,
    Option.filter_some, if_pos (bne_iff_ne.2 notDots), Option.bind_some]

theorem split_name_cases (name : String) :
    splitName name = (name, none) ∨
      ∃ ending, splitName name = (stem name, some ending) ∧ name = stem name ++ "." ++ ending := by
  have whole := List.take_append_drop
    (name.toList.reverse.takeWhile (· != '.')).length name.toList.reverse
  rw [List.prefix_iff_eq_take.1 (List.takeWhile_prefix _) |>.symm] at whole
  rw [stem, splitName]
  split
  · rename_i before dotted
    rw [dotted] at whole
    split
    · exact .inl rfl
    · refine .inr ⟨_, rfl, ?_⟩
      apply String.toList_inj.1
      have text := congrArg List.reverse whole
      rw [List.reverse_append, List.reverse_cons, List.reverse_reverse, List.append_assoc] at text
      simp only [String.toList_append, String.toList_ofList, List.append_assoc]
      exact text.symm
  · exact .inl rfl

theorem split_name_extension {ending : String} (split : (splitName name).2 = some ending) :
    name = stem name ++ "." ++ ending := by
  rcases split_name_cases name with whole | ⟨ending', cut, same⟩
  · rw [whole] at split
    exact nomatch split
  · rw [cut] at split
    obtain rfl := Option.some.inj split
    exact same

end Path

namespace Experiment

variable {tree found : FileTree} {place place' : List String} {id : ArtifactId}
  {extension base : String}
variable {location : ArtifactLocation}

def iterationOf (name : String) : Option Nat :=
  (afterStart "iteration_" name).bind (Decimal.readNat? iterationBound)

/-- The names that an artifact is found by. Its iteration is known by a number only, and its model
by a name without the extension. -/
theorem identify_eq_some_iff :
    identify place = some id ↔ ∃ iteration file,
      place = [id.challenge, id.prompt, id.temperature, iteration, file] ∧
        (afterStart "temp" id.temperature).isSome ∧ iterationOf iteration = some id.iteration ∧
          Path.stem file = id.model ∧ id.model ≠ parametersName ∧ id.model ≠ "" := by
  constructor
  · intro identified
    rw [identify.eq_def] at identified
    split at identified
    · rename_i challenge prompt temperature iteration file
      obtain ⟨_, temperature_, identified⟩ := Option.bind_eq_some_iff.1 identified
      obtain ⟨digits, after, identified⟩ := Option.bind_eq_some_iff.1 identified
      obtain ⟨number, read, identified⟩ := Option.bind_eq_some_iff.1 identified
      dsimp only at identified
      split at identified
      · exact nomatch identified
      · rename_i model
        obtain rfl := Option.some.inj identified
        rw [Bool.or_eq_true, not_or, beq_iff_eq, String.isEmpty_iff] at model
        refine ⟨iteration, file, rfl, Option.isSome_iff_exists.2 ⟨_, temperature_⟩, ?_, rfl, model⟩
        rw [iterationOf, after, Option.bind_some, read]
    · exact nomatch identified
  · rintro ⟨iteration, file, rfl, temperature, number, model, noParameters, filled⟩
    obtain ⟨rest, temperature⟩ := Option.isSome_iff_exists.1 temperature
    obtain ⟨digits, after, read⟩ := Option.bind_eq_some_iff.1 number
    simp [identify, temperature, after, read, noParameters, filled, model]

/-- An artifact of a language stands at a place: a file or a link of its extension, below the names
of its id, in a directory that can be listed. -/
structure Stands (tree : FileTree) (base extension : String) (place : List String)
    (id : ArtifactId) : Prop where
  identified : identify place = some id
  within : isListed base place = true
  here : ∃ found, tree.get? place = some found ∧ found.isDirectory = false
  extension : (place.getLast?.bind fun name => (Path.splitName name).2) = some extension

/-- Two directories whose names are different spellings of one iteration hold files of one name. -/
def SpelledTwice (tree : FileTree) (base extension : String) : Prop :=
  ∃ id iteration iteration' file, iteration ≠ iteration' ∧
    Stands tree base extension [id.challenge, id.prompt, id.temperature, iteration, file] id ∧
    Stands tree base extension [id.challenge, id.prompt, id.temperature, iteration', file] id

theorem location_eq_some_iff (plain : ∀ name ∈ place, Path.Plain name) :
    location? base extension place found = some location ↔
      identify place = some location.id ∧ found.isDirectory = false ∧
        (place.getLast?.bind fun name => (Path.splitName name).2) = some extension ∧
          isListed base place = true ∧ location.path = FileTree.pathBelow base place := by
  rw [location?]
  by_cases shape : place.length = depth
  · have filled : place ≠ [] := fun none => by simp [none, depth] at shape
    have last := List.getLast?_eq_some_getLast filled
    obtain ⟨id, path⟩ := location
    rw [Path.extension_below base plain last, last, Option.bind_some]
    simp only [shape, decide_true, Bool.true_and, Option.ite_none_right_eq_some, Bool.and_eq_true,
      Bool.not_eq_true', beq_iff_eq, Option.map_eq_some_iff, ArtifactLocation.mk.injEq]
    constructor
    · rintro ⟨⟨⟨noDirectory, ending⟩, within⟩, _, identified, rfl, same⟩
      exact ⟨identified, noDirectory, ending, within, same.symm⟩
    · rintro ⟨identified, noDirectory, ending, within, same⟩
      exact ⟨⟨⟨noDirectory, ending⟩, within⟩, id, identified, rfl, same.symm⟩
  · have unidentified (id : ArtifactId) : identify place ≠ some id := by
      intro identified
      obtain ⟨iteration, file, rfl, -⟩ := identify_eq_some_iff.1 identified
      exact shape rfl
    simp [shape, unidentified]

theorem Stands.eq_names (stands : Stands tree base extension place id) :
    ∃ iteration, place =
      [id.challenge, id.prompt, id.temperature, iteration, id.model ++ "." ++ extension] := by
  obtain ⟨iteration, file, rfl, -, -, model, -⟩ := identify_eq_some_iff.1 stands.identified
  have ending : (Path.splitName file).2 = some extension := stands.extension
  exact ⟨iteration, by rw [← model, ← Path.split_name_extension ending]⟩

theorem stands_once_iff :
    (∀ place place' id, Stands tree base extension place id → Stands tree base extension place' id →
      place = place') ↔ ¬ SpelledTwice tree base extension := by
  constructor
  · rintro once ⟨id, iteration, iteration', file, apart, first, second⟩
    have same := once _ _ id first second
    simp only [List.cons.injEq, true_and, and_true] at same
    exact apart same
  · intro once place place' id first second
    obtain ⟨iteration, rfl⟩ := first.eq_names
    obtain ⟨iteration', rfl⟩ := second.eq_names
    by_contra apart
    exact once ⟨id, iteration, iteration', _, fun same => apart (by rw [same]), first, second⟩

def foundBelow (base extension : String) (tree : FileTree) : List ArtifactLocation :=
  tree.walk.filterMap fun entry => location? base extension entry.1 entry.2

theorem location_of_listed (sound : tree.Sound) (listed : (place, found) ∈ tree.walk) :
    location? base extension place found = some location ↔
      Stands tree base extension place location.id ∧
      location.path = FileTree.pathBelow base place := by
  have here : tree.get? place = some found := ((FileTree.mem_walk sound).1 listed).2
  rw [location_eq_some_iff (sound.plain here)]
  constructor
  · rintro ⟨identified, noDirectory, ending, within, path⟩
    exact ⟨⟨identified, within, ⟨_, here, noDirectory⟩, ending⟩, path⟩
  · rintro ⟨⟨identified, within, ⟨found', here', noDirectory⟩, ending⟩, path⟩
    obtain rfl := Option.some.inj (here.symm.trans here')
    exact ⟨identified, noDirectory, ending, within, path⟩

theorem Stands.listed (stands : Stands tree base extension place id) (sound : tree.Sound) :
    ∃ found, (place, found) ∈ tree.walk := by
  obtain ⟨found, here, -⟩ := stands.here
  have filled : place ≠ [] := by
    rintro rfl
    exact nomatch stands.extension
  exact ⟨found, (FileTree.mem_walk sound).2 ⟨filled, here⟩⟩

theorem mem_found_iff (sound : tree.Sound) :
    location ∈ foundBelow base extension tree ↔
      ∃ place, Stands tree base extension place location.id ∧
        location.path = FileTree.pathBelow base place := by
  rw [foundBelow, List.mem_filterMap]
  constructor
  · rintro ⟨⟨place, found⟩, listed, is⟩
    exact ⟨place, (location_of_listed sound listed).1 is⟩
  · rintro ⟨place, stands, path⟩
    obtain ⟨found, listed⟩ := stands.listed sound
    exact ⟨(place, found), listed, (location_of_listed sound listed).2 ⟨stands, path⟩⟩

theorem found_ids_nodup_iff (sound : tree.Sound) :
    ((foundBelow base extension tree).map ArtifactLocation.id).Nodup ↔
      ¬ SpelledTwice tree base extension := by
  rw [← stands_once_iff, foundBelow, List.Nodup, List.pairwise_map, List.pairwise_filterMap]
  constructor
  · intro distinct place place' id first second
    obtain ⟨found, listed⟩ := first.listed sound
    obtain ⟨found', listed'⟩ := second.listed sound
    by_contra apart
    have symmetric : Std.Symm fun entry other : List String × FileTree =>
        ∀ location, location? base extension entry.1 entry.2 = some location → ∀ location',
          location? base extension other.1 other.2 = some location' → location.id ≠ location'.id :=
      ⟨fun _ _ related location is location' is' same =>
        related location' is' location is same.symm⟩
    exact distinct.forall listed listed' (fun same => apart (Prod.mk.inj same).1)
      ⟨id, FileTree.pathBelow base place⟩ ((location_of_listed sound listed).2 ⟨first, rfl⟩)
      ⟨id, FileTree.pathBelow base place'⟩ ((location_of_listed sound listed').2 ⟨second, rfl⟩) rfl
  · intro once
    refine (FileTree.walk_nodup sound).of_map.pairwise_of_forall_ne ?_
    rintro ⟨place, found⟩ listed ⟨place', found'⟩ listed' apart location is location' is' same
    obtain ⟨first, -⟩ := (location_of_listed sound listed).1 is
    obtain ⟨second, -⟩ := (location_of_listed sound listed').1 is'
    obtain rfl := once place place' location.id first (same ▸ second)
    have here := ((FileTree.mem_walk sound).1 listed).2
    have here' := ((FileTree.mem_walk sound).1 listed').2
    exact apart (Prod.ext rfl (Option.some.inj (here.symm.trans here')))

theorem code_root_found {files : FileTree} {root : String}
    (isThere : files.hasDirectory root = true) :
    ∃ tree, files.find (codeRoot files root) = .ok tree := by
  have found {path : String} (isThere : files.hasDirectory path = true) :
      ∃ tree, files.find path = .ok tree := by
    rw [FileTree.hasDirectory] at isThere
    split at isThere
    · rename_i tree there
      exact ⟨tree, there⟩
    · exact nomatch isThere
  rw [codeRoot]
  split
  · rename_i nested
    exact found nested
  · exact found isThere

theorem discover_eq {files : FileTree} {root : String} (isThere : files.hasDirectory root = true)
    (found : files.find (codeRoot files root) = .ok tree) :
    discover files root extension =
      .ok ((foundBelow (codeRoot files root) extension tree).mergeSort fun a b =>
        a.id.le b.id) := by
  rw [discover, if_pos isThere]
  simp only [found]
  rfl

end Experiment

section Documents

variable {files : FileTree} {locations : List ArtifactLocation} {key other : CacheKey}

/-- An artifact with nothing in its names that a safe name does not keep. -/
structure ArtifactId.Harmless (id : ArtifactId) : Prop where
  challenge : Resemblance.Harmless id.challenge
  prompt : Resemblance.Harmless id.prompt
  temperature : Resemblance.Harmless id.temperature
  model : Resemblance.Harmless id.model

theorem ArtifactId.Harmless.eq_of_place {id id' : ArtifactId} (harmless : id.Harmless)
    (harmless' : id'.Harmless) (same : id.cachePlace = id'.cachePlace) : id = id' := by
  simp only [cachePlace, Prod.mk.injEq, List.cons.injEq, safe_name_eq_iff, and_true] at same
  obtain ⟨⟨challenge, prompt, temperature, model⟩, iteration⟩ := same
  have challenge := harmless.challenge.eq_of_alike harmless'.challenge challenge
  have prompt := harmless.prompt.eq_of_alike harmless'.prompt prompt
  have temperature := harmless.temperature.eq_of_alike harmless'.temperature temperature
  have model := harmless.model.eq_of_alike harmless'.model model
  exact ArtifactId.eq_of_bucket (bucket_eq_iff.2 ⟨model, challenge, prompt, temperature⟩) iteration

/-- Two keys of one version share a document exactly if the cache keeps their artifacts at the same
places. -/
theorem CacheKey.path_eq_iff_places (bucket : key.reference.bucket = key.candidate.bucket)
    (bucket' : other.reference.bucket = other.candidate.bucket)
    (version : key.version = other.version) :
    key.path = other.path ↔ key.reference.cachePlace = other.reference.cachePlace ∧
      key.candidate.cachePlace = other.candidate.cachePlace := by
  rw [CacheKey.path_eq_iff]
  constructor
  · intro same
    simp only [names, List.cons.injEq] at same
    obtain ⟨-, challenge, prompt, temperature, model, file, -⟩ := same
    obtain ⟨reference, candidate⟩ := CacheKey.file_name_inj file
    have place : key.reference.cachePlace = other.reference.cachePlace := by
      simp only [ArtifactId.cachePlace, challenge, prompt, temperature, model, reference]
    refine ⟨place, ?_⟩
    let moved (key : CacheKey) : ArtifactId :=
      { key.reference with iteration := key.candidate.iteration }
    have first : (moved key).cachePlace = key.candidate.cachePlace :=
      ArtifactId.cache_place_eq bucket rfl
    have second : (moved other).cachePlace = other.candidate.cachePlace :=
      ArtifactId.cache_place_eq bucket' rfl
    rw [← first, ← second]
    simp only [moved, ArtifactId.cachePlace, challenge, prompt, temperature, model, candidate]
  · rintro ⟨first, second⟩
    simp only [ArtifactId.cachePlace, Prod.mk.injEq, List.cons.injEq, and_true] at first second
    obtain ⟨⟨challenge, prompt, temperature, model⟩, reference⟩ := first
    simp only [names, fileName, version, challenge, prompt, temperature, model, reference, second.2]

theorem CacheKey.of_pair_path_congr {version : String}
    {reference reference' candidate : ArtifactLocation}
    (same : reference.id = reference'.id) :
    (CacheKey.ofPair files version reference candidate).path =
      (CacheKey.ofPair files version reference' candidate).path := by
  simp only [CacheKey.path_eq_iff, CacheKey.names, CacheKey.fileName, CacheKey.ofPair, same]

theorem Job.path_eq_iff {job job' : Job} {version : String}
    (member : job ∈ Job.ofLocations files locations)
    (member' : job' ∈ Job.ofLocations files locations) (keyed : job.key version = .ok key)
    (keyed' : job'.key version = .ok other) :
    key.path = other.path ↔ job.referenceId.cachePlace = job'.referenceId.cachePlace ∧
      job.candidateId.cachePlace = job'.candidateId.cachePlace := by
  obtain ⟨reference, -, candidate, -, bucket, rfl⟩ := Job.of_locations member
  obtain ⟨reference', -, candidate', -, bucket', rfl⟩ := Job.of_locations member'
  obtain rfl := Except.ok.inj ((Job.key_of_pair bucket version).symm.trans keyed)
  obtain rfl := Except.ok.inj ((Job.key_of_pair bucket' version).symm.trans keyed')
  exact CacheKey.path_eq_iff_places bucket bucket' rfl

/-- Pairs of distinct artifacts with harmless names are kept apart. -/
theorem Job.paths_apart (ids : (locations.map ArtifactLocation.id).Nodup)
    (harmless : ∀ location ∈ locations, location.id.Harmless) (version : String) :
    (Job.ofLocations files locations).Pairwise fun job job' => ∀ key other,
      job.key version = .ok key → job'.key version = .ok other → key.path ≠ other.path := by
  refine (List.pairwise_map.1 (Job.ids_nodup ids)).imp_of_mem ?_
  intro job job' member member' apart key other keyed keyed' same
  obtain ⟨first, second⟩ := (Job.path_eq_iff member member' keyed keyed').1 same
  obtain ⟨reference, one, candidate, two, -, rfl⟩ := Job.of_locations member
  obtain ⟨reference', one', candidate', two', -, rfl⟩ := Job.of_locations member'
  exact apart (Prod.ext ((harmless reference one).eq_of_place (harmless reference' one') first)
    ((harmless candidate two).eq_of_place (harmless candidate' two') second))

end Documents

section Experiments

open Experiment

variable {files : FileTree} {root extension : String}

/-- Discovery lists every artifact of an experiment in the order of their ids, and the ids are
distinct exactly if no iteration is spelled twice. Two pairs of a run share a document exactly if
the safe names and the iterations of their artifacts are the same; if no iteration is spelled twice
and no name has anything that a safe name does not keep, all documents of the run are apart. -/
theorem ids_repeat_only_by_spelling (sound : files.Sound)
    (isThere : files.hasDirectory root = true) :
    ∃ tree locations, files.find (codeRoot files root) = .ok tree ∧
      discover files root extension = .ok locations ∧
      (∀ location, location ∈ locations ↔
        ∃ place, Stands tree (codeRoot files root) extension place location.id ∧
        location.path = FileTree.pathBelow (codeRoot files root) place) ∧
      locations.Pairwise (fun a b => a.id.le b.id = true) ∧
      (locations.Pairwise (fun a b => a.id.le b.id = true ∧ a.id ≠ b.id) ↔
        ¬ SpelledTwice tree (codeRoot files root) extension) ∧
      ∀ version,
        (∀ job ∈ Job.ofLocations files locations,
          ∀ job' ∈ Job.ofLocations files locations, ∀ key other,
          job.key version = .ok key → job'.key version = .ok other →
            (key.path = other.path ↔ job.referenceId.cachePlace = job'.referenceId.cachePlace ∧
              job.candidateId.cachePlace = job'.candidateId.cachePlace)) ∧
        (¬ SpelledTwice tree (codeRoot files root) extension →
          (∀ location ∈ locations, location.id.Harmless) →
          (Job.ofLocations files locations).Pairwise fun job job' => ∀ key other,
            job.key version = .ok key → job'.key version = .ok other → key.path ≠ other.path) := by
  obtain ⟨tree, found⟩ := code_root_found isThere
  have treeSound := sound.find found
  let inOrder := (foundBelow (codeRoot files root) extension tree).mergeSort fun a b => a.id.le b.id
  have perm : inOrder.Perm (foundBelow (codeRoot files root) extension tree) :=
    List.mergeSort_perm _ _
  have sorted : inOrder.Pairwise fun a b => a.id.le b.id = true := by
    apply List.pairwise_mergeSort
    · exact fun _ _ _ => ArtifactId.le_trans
    · exact fun a b => Bool.or_eq_true_iff.2 (ArtifactId.le_total a.id b.id)
  have once : (inOrder.map ArtifactLocation.id).Nodup ↔
      ¬ SpelledTwice tree (codeRoot files root) extension :=
    (perm.map _).nodup_iff.trans (found_ids_nodup_iff treeSound)
  refine ⟨tree, inOrder, found, discover_eq isThere found, fun location => ?_, sorted, ?_,
    fun version =>
      ⟨?_, fun spelledOnce harmless => Job.paths_apart (once.2 spelledOnce) harmless version⟩⟩
  · exact perm.mem_iff.trans (mem_found_iff treeSound)
  · rw [← once, List.pairwise_and_iff, List.Nodup, List.pairwise_map]
    exact ⟨And.right, fun distinct => ⟨sorted, distinct⟩⟩
  · exact fun job member job' member' key other keyed keyed' =>
      Job.path_eq_iff member member' keyed keyed'

/-- An experiment with one challenge, prompt, temperature and model, and iterations of these
names. -/
def iterationTree (iterations : List String) : FileTree :=
  ["c", "p", "temp_1"].foldr (fun name tree => .directory [(name, tree)])
    (.directory (iterations.map fun iteration =>
      (iteration, .directory [("m.py", .file s!"x = {iteration}".toUTF8)])))

def iterationFile (iteration : String) (number : Nat) : ArtifactLocation :=
  ⟨⟨"c", "p", "temp_1", number, "m"⟩, s!"c/p/temp_1/{iteration}/m.py"⟩

theorem iteration_tree_sound {iterations : List String}
    (increasing : iterations.Pairwise fun iteration next => iteration < next)
    (plain : ∀ iteration ∈ iterations, Path.Plain iteration) :
    (iterationTree iterations).Sound := by
  have outer (name : String) (isPlain : name ∈ ["c", "p", "temp_1", "m.py"]) : Path.Plain name := by
    simp only [List.mem_cons, List.not_mem_nil, or_false] at isPlain
    rcases isPlain with rfl | rfl | rfl | rfl <;> exact ⟨by decide, by decide, by decide, by decide⟩
  refine FileTree.sound_single (outer "c" (by decide))
    (FileTree.sound_single (outer "p" (by decide))
    (FileTree.sound_single (outer "temp_1" (by decide)) (.directory ?_ ?_ ?_)))
  · exact List.pairwise_map.2 increasing
  · exact List.forall_mem_map.2 plain
  · exact List.forall_mem_map.2 fun _ _ =>
      FileTree.sound_single (outer "m.py" (by decide)) (.file _)

def spelledTwice : FileTree := iterationTree ["iteration_01", "iteration_1", "iteration_2"]

def spelledOnce : FileTree := iterationTree ["iteration_1", "iteration_2"]

theorem discover_spelled_twice : discover spelledTwice "" "py" =
    .ok [iterationFile "iteration_01" 1, iterationFile "iteration_1" 1,
      iterationFile "iteration_2" 2] := by
  have found : foundBelow "" "py" spelledTwice =
      [iterationFile "iteration_01" 1, iterationFile "iteration_1" 1,
          iterationFile "iteration_2" 2] := by
    decide
  have here : spelledTwice.find (codeRoot spelledTwice "") = .ok spelledTwice := rfl
  have base : codeRoot spelledTwice "" = "" := rfl
  rw [discover_eq rfl here, base, found, List.mergeSort_of_pairwise (by decide)]

theorem discover_spelled_once : discover spelledOnce "" "py" =
    .ok [iterationFile "iteration_1" 1, iterationFile "iteration_2" 2] := by
  have found : foundBelow "" "py" spelledOnce =
      [iterationFile "iteration_1" 1, iterationFile "iteration_2" 2] := by
    decide
  have here : spelledOnce.find (codeRoot spelledOnce "") = .ok spelledOnce := rfl
  have base : codeRoot spelledOnce "" = "" := rfl
  rw [discover_eq rfl here, base, found, List.mergeSort_of_pairwise (by decide)]

theorem iteration_plain {iteration : String}
    (isIteration : iteration ∈ ["iteration_01", "iteration_1", "iteration_2"]) :
    Path.Plain iteration := by
  simp only [List.mem_cons, List.not_mem_nil, or_false] at isIteration
  rcases isIteration with rfl | rfl | rfl <;> exact ⟨by decide, by decide, by decide, by decide⟩

theorem spelled_once_sound : spelledOnce.Sound :=
  iteration_tree_sound (by decide) fun _ member => iteration_plain (.tail _ member)

/-- Two iterations with a name each have documents of their own, in both directions. -/
theorem iterations_spelled_once_are_apart :
    spelledOnce.Sound ∧ spelledOnce.hasDirectory "" = true ∧ ¬ SpelledTwice spelledOnce "" "py" ∧
      (Job.ofLocations spelledOnce
        [iterationFile "iteration_1" 1, iterationFile "iteration_2" 2]).Pairwise
        fun job job' => ∀ key other, job.key "v1" = .ok key → job'.key "v1" = .ok other →
          key.path ≠ other.path := by
  have isThere : spelledOnce.hasDirectory "" = true := rfl
  obtain ⟨tree, locations, found, discovered, -, -, once, documents⟩ :=
    @ids_repeat_only_by_spelling spelledOnce "" "py" spelled_once_sound isThere
  obtain rfl := Except.ok.inj (discover_spelled_once.symm.trans discovered)
  have here : spelledOnce.find (codeRoot spelledOnce "") = .ok spelledOnce := rfl
  obtain rfl := Except.ok.inj (here.symm.trans found)
  have single := once.1 (by decide)
  refine ⟨spelled_once_sound, isThere, single, (documents "v1").2 single ?_⟩
  have harmless (iteration : String) (number : Nat) :
      (iterationFile iteration number).id.Harmless :=
    ⟨show Harmless "c" by decide, show Harmless "p" by decide, show Harmless "temp_1" by decide,
      show Harmless "m" by decide⟩
  exact List.forall_mem_cons.2 ⟨harmless _ _, List.forall_mem_singleton.2 (harmless _ _)⟩

def respelled : List ArtifactLocation :=
  [iterationFile "iteration_01" 1, iterationFile "iteration_1" 1, iterationFile "iteration_2" 2]

/-- An iteration that is spelled in two ways makes two artifacts of one id, whose pairs share a
document. -/
theorem respelled_iteration_shares_documents :
    spelledTwice.Sound ∧ discover spelledTwice "" "py" = .ok respelled ∧
      ¬ respelled.Pairwise (fun a b => a.id.le b.id = true ∧ a.id ≠ b.id) ∧
      Job.ofPair spelledTwice (iterationFile "iteration_01" 1) (iterationFile "iteration_2" 2) ∈
        Job.ofLocations spelledTwice respelled ∧
      Job.ofPair spelledTwice (iterationFile "iteration_1" 1) (iterationFile "iteration_2" 2) ∈
        Job.ofLocations spelledTwice respelled ∧
      (iterationFile "iteration_01" 1).path ≠ (iterationFile "iteration_1" 1).path ∧
      (CacheKey.ofPair spelledTwice "v1" (iterationFile "iteration_01" 1)
        (iterationFile "iteration_2" 2)).path =
        (CacheKey.ofPair spelledTwice "v1" (iterationFile "iteration_1" 1)
          (iterationFile "iteration_2" 2)).path := by
  have paired (reference : ArtifactLocation) (member : reference ∈ respelled)
      (bucket : reference.id.bucket = (iterationFile "iteration_2" 2).id.bucket)
      (apart : reference.id.iteration ≠ 2) :
      Job.ofPair spelledTwice reference (iterationFile "iteration_2" 2) ∈
        Job.ofLocations spelledTwice respelled :=
    Job.mem_of_locations_iff.2 ⟨reference, member, iterationFile "iteration_2" 2,
      .tail _ (.tail _ List.mem_cons_self), bucket, apart, rfl⟩
  refine ⟨?_, discover_spelled_twice, by decide, ?_, ?_, by decide, ?_⟩
  · exact iteration_tree_sound (by decide) fun _ => iteration_plain
  · exact paired _ List.mem_cons_self rfl (by decide)
  · exact paired _ (.tail _ List.mem_cons_self) rfl (by decide)
  · exact CacheKey.of_pair_path_congr (by rw [iterationFile, iterationFile])

end Experiments

end Resemblance
