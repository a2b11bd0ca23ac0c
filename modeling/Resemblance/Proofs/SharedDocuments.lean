import Resemblance.Config
import Resemblance.Proofs.CacheDirectory

/-!
Keys that share a document. A name is made safe by writing an underscore for what would end it and
by setting a name that stands for a place between underscores, and neither can be undone. So two
keys share a document exactly if their names are alike in this sense, and then each hides what was
put under the other.
-/

namespace Resemblance

/-- A text with an underscore for each character that would end a name. -/
def cleaned (text : String) : List Char :=
  text.toList.map fun c => if endsName c then '_' else c

def placeNames : List (List Char) := [[], ['.'], ['.', '.']]

def guarded (name : List Char) : List Char :=
  '_' :: name ++ ['_']

/-- One text stands for a place, and the other is that text between underscores. -/
def Guards (name other : List Char) : Prop :=
  name ∈ placeNames ∧ other = guarded name

instance (name other : List Char) : Decidable (Guards name other) :=
  inferInstanceAs (Decidable (_ ∧ _))

/-- Texts that differ in nothing that a safe name keeps. -/
def Alike (a b : String) : Prop :=
  cleaned a = cleaned b ∨ Guards (cleaned a) (cleaned b) ∨ Guards (cleaned b) (cleaned a)

instance (a b : String) : Decidable (Alike a b) :=
  inferInstanceAs (Decidable (_ ∨ _))

/-- A text that is its own safe name and not that of another text without such characters. -/
structure Harmless (text : String) : Prop where
  undivided : ∀ c ∈ text.toList, endsName c = false
  noPlace : text.toList ∉ placeNames
  unguarded : text.toList ∉ placeNames.map guarded

instance (text : String) : Decidable (Harmless text) :=
  decidable_of_iff ((text.toList.all fun c => !endsName c) ∧ text.toList ∉ placeNames ∧
      text.toList ∉ placeNames.map guarded)
    ⟨fun ⟨undivided, noPlace, unguarded⟩ => ⟨by simpa using undivided, noPlace, unguarded⟩,
      fun ⟨undivided, noPlace, unguarded⟩ => ⟨by simpa using undivided, noPlace, unguarded⟩⟩

section Texts

variable {a b text : String}

theorem safe_name_eq (text : String) :
    safeName text = String.ofList
      (if cleaned text ∈ placeNames then guarded (cleaned text) else cleaned text) := by
  have place : (cleaned text).isEmpty || cleaned text == ['.'] || cleaned text == ['.', '.'] ↔
      cleaned text ∈ placeNames := by
    simp [placeNames, or_assoc]
  rw [safeName]
  change (if (cleaned text).isEmpty || cleaned text == ['.'] || cleaned text == ['.', '.'] then _
    else String.ofList (cleaned text)) = _
  by_cases isPlace : cleaned text ∈ placeNames
  · rw [if_pos isPlace, if_pos (place.2 isPlace)]
    rfl
  · rw [if_neg isPlace, if_neg (mt place.1 isPlace)]

theorem guarded_inj {name other : List Char} : guarded name = guarded other ↔ name = other := by
  simp [guarded]

theorem guarded_no_place (name : List Char) : guarded name ∉ placeNames := by
  simp [guarded, placeNames]

theorem safe_name_eq_iff : safeName a = safeName b ↔ Alike a b := by
  rw [safe_name_eq, safe_name_eq, String.ofList_inj, Alike, Guards, Guards]
  by_cases first : cleaned a ∈ placeNames
  · by_cases second : cleaned b ∈ placeNames
    · have apart : cleaned b ≠ guarded (cleaned a) := fun same => guarded_no_place _ (same ▸ second)
      have apart' : cleaned a ≠ guarded (cleaned b) := fun same => guarded_no_place _ (same ▸ first)
      simp [first, second, apart, apart', guarded_inj]
    · have apart : cleaned a ≠ cleaned b := fun same => second (same ▸ first)
      simp [first, second, apart, eq_comm]
  · by_cases second : cleaned b ∈ placeNames
    · have apart : cleaned a ≠ cleaned b := fun same => first (same ▸ second)
      simp [first, second, apart]
    · simp [first, second]

theorem cleaned_of_undivided (undivided : ∀ c ∈ text.toList, endsName c = false) :
    cleaned text = text.toList := by
  have kept : ∀ c ∈ text.toList, (if endsName c then '_' else c) = c := by
    intro c member
    rw [undivided c member, if_neg Bool.false_ne_true]
  rw [cleaned, List.map_congr_left kept, List.map_id']

theorem alike_undivided_iff (undivided : ∀ c ∈ a.toList, endsName c = false)
    (undivided' : ∀ c ∈ b.toList, endsName c = false) :
    Alike a b ↔ a = b ∨ Guards a.toList b.toList ∨ Guards b.toList a.toList := by
  rw [Alike, cleaned_of_undivided undivided, cleaned_of_undivided undivided', String.toList_inj]

theorem Harmless.eq_of_alike (harmless : Harmless a) (harmless' : Harmless b) (alike : Alike a b) :
    a = b := by
  rw [alike_undivided_iff harmless.undivided harmless'.undivided] at alike
  rcases alike with same | ⟨place, -⟩ | ⟨place, -⟩
  · exact same
  · exact absurd place harmless.noPlace
  · exact absurd place harmless'.noPlace

theorem version_tag_undivided (tag : Config.isVersionTag text = true) :
    ∀ c ∈ text.toList, endsName c = false := by
  intro c member
  have allowed := List.all_eq_true.1 (Bool.and_eq_true_iff.1 tag).2 c member
  by_contra ends
  rw [Bool.not_eq_false, endsName, Bool.or_eq_true, Bool.or_eq_true] at ends
  rcases ends with (slash | backslash) | zero
  · rw [eq_of_beq slash] at allowed
    contradiction
  · rw [eq_of_beq backslash] at allowed
    contradiction
  · rw [eq_of_beq zero] at allowed
    contradiction

theorem guards_filled_iff (filled : a ≠ "") :
    Guards a.toList b.toList ↔ a = "." ∧ b = "_._" ∨ a = ".." ∧ b = "_.._" := by
  constructor
  · rintro ⟨place, between⟩
    simp only [placeNames, List.mem_cons, List.not_mem_nil, or_false] at place
    rcases place with empty | dot | dots
    · exact absurd (String.toList_eq_nil_iff.1 empty) filled
    · rw [dot] at between
      exact .inl ⟨String.toList_inj.1 dot, String.toList_inj.1 between⟩
    · rw [dots] at between
      exact .inr ⟨String.toList_inj.1 dots, String.toList_inj.1 between⟩
  · rintro (⟨rfl, rfl⟩ | ⟨rfl, rfl⟩)
    · decide
    · decide

/-- Version tags are alike only if one of them is a dot or two and the other the same between
underscores. -/
theorem version_tags_alike_iff (tag : Config.isVersionTag a = true)
    (tag' : Config.isVersionTag b = true) :
    Alike a b ↔ a = b ∨ (a = "." ∧ b = "_._" ∨ a = ".." ∧ b = "_.._") ∨
      (b = "." ∧ a = "_._" ∨ b = ".." ∧ a = "_.._") := by
  have filled (text : String) (tag : Config.isVersionTag text = true) : text ≠ "" := by
    rintro rfl
    contradiction
  rw [alike_undivided_iff (version_tag_undivided tag) (version_tag_undivided tag'),
    guards_filled_iff (filled a tag), guards_filled_iff (filled b tag')]

end Texts

theorem ArtifactId.eq_of_bucket {id id' : ArtifactId} (bucket : id.bucket = id'.bucket)
    (iteration : id.iteration = id'.iteration) : id = id' := by
  obtain ⟨challenge, prompt, temperature, number, model⟩ := id
  obtain ⟨challenge', prompt', temperature', number', model'⟩ := id'
  obtain ⟨rfl, rfl, rfl, rfl⟩ := ArtifactId.bucket_eq_iff.1 bucket
  obtain rfl : number = number' := iteration
  rfl

namespace CacheKey

variable {key other : CacheKey}

/-- Keys that agree in all that decides on the document: names that are alike, and both
iterations. -/
structure Alike (key other : CacheKey) : Prop where
  version : Resemblance.Alike key.version other.version
  challenge : Resemblance.Alike key.reference.challenge other.reference.challenge
  prompt : Resemblance.Alike key.reference.prompt other.reference.prompt
  temperature : Resemblance.Alike key.reference.temperature other.reference.temperature
  model : Resemblance.Alike key.reference.model other.reference.model
  reference : key.reference.iteration = other.reference.iteration
  candidate : key.candidate.iteration = other.candidate.iteration

/-- A key of two artifacts of one bucket, with nothing in its names that a safe name does not
keep. -/
structure Harmless (key : CacheKey) : Prop where
  bucket : key.reference.bucket = key.candidate.bucket
  version : Resemblance.Harmless key.version
  challenge : Resemblance.Harmless key.reference.challenge
  prompt : Resemblance.Harmless key.reference.prompt
  temperature : Resemblance.Harmless key.reference.temperature
  model : Resemblance.Harmless key.reference.model

theorem path_eq_iff : key.path = other.path ↔ key.names = other.names := by
  constructor
  · intro same
    have names := congrArg Path.names same
    rwa [path, path, Path.names_intercalate key.names_plain,
      Path.names_intercalate other.names_plain]
      at names
  · intro same
    rw [path, path, same]

theorem names_eq_iff : key.names = other.names ↔ key.Alike other := by
  constructor
  · intro same
    simp only [names, List.cons.injEq, safe_name_eq_iff] at same
    obtain ⟨version, challenge, prompt, temperature, model, file, -⟩ := same
    obtain ⟨reference, candidate⟩ := file_name_inj file
    exact ⟨version, challenge, prompt, temperature, model, reference, candidate⟩
  · intro alike
    have file : key.fileName = other.fileName := by
      rw [fileName, fileName, alike.reference, alike.candidate]
    simp only [names, List.cons.injEq, safe_name_eq_iff]
    exact ⟨alike.version, alike.challenge, alike.prompt, alike.temperature, alike.model,
      file, trivial⟩

theorem Harmless.eq_of_alike (harmless : key.Harmless) (harmless' : other.Harmless)
    (alike : key.Alike other) :
    key.version = other.version ∧ key.reference = other.reference ∧
    key.candidate = other.candidate := by
  have challenge := harmless.challenge.eq_of_alike harmless'.challenge alike.challenge
  have prompt := harmless.prompt.eq_of_alike harmless'.prompt alike.prompt
  have temperature := harmless.temperature.eq_of_alike harmless'.temperature alike.temperature
  have model := harmless.model.eq_of_alike harmless'.model alike.model
  have bucket : key.reference.bucket = other.reference.bucket :=
    ArtifactId.bucket_eq_iff.2 ⟨model, challenge, prompt, temperature⟩
  have candidate := (harmless.bucket.symm.trans bucket).trans harmless'.bucket
  exact ⟨harmless.version.eq_of_alike harmless'.version alike.version,
    ArtifactId.eq_of_bucket bucket alike.reference,
    ArtifactId.eq_of_bucket candidate alike.candidate⟩

end CacheKey

section Sharing

variable {cache : CacheDirectory} {files files' : FileTree} {key other : CacheKey} {record : Record}

/-- Of two keys that share a document, each hides what was put under the other. -/
theorem CacheDirectory.get_hidden (clear : cache.Clear files key)
    (put : cache.put key record files = .ok files') (writable : CacheEntry.Writable ⟨key, record⟩)
    (different : key ≠ other) (shared : key.path = other.path) :
    cache.get other files' = .ok none := by
  obtain ⟨between, root, puts⟩ := clear.puts put
  have held := puts.read_own
  have here : cache.entryPath key = cache.entryPath other := by
    rw [CacheDirectory.entryPath, CacheDirectory.entryPath, shared]
  rw [here] at held
  rw [CacheDirectory.get_written held writable, if_neg different]

/-- Two keys share a document exactly if they are alike. Then each hides what was put under the
other; otherwise neither touches what was put under the other. For version tags and for names
without anything that a safe name does not keep, to be alike is to be the same, apart from two pairs
of version tags. -/
theorem keys_share_documents_iff_alike (key other : CacheKey) :
    (key.path = other.path ↔ key.Alike other) ∧
      (key.Harmless → other.Harmless → key.path = other.path →
        key.version = other.version ∧ key.reference = other.reference ∧
        key.candidate = other.candidate) ∧
      (Config.isVersionTag key.version = true → Config.isVersionTag other.version = true →
        key.path = other.path → key.version = other.version ∨
          (key.version = "." ∧ other.version = "_._" ∨ key.version = ".." ∧
            other.version = "_.._") ∨
          (other.version = "." ∧ key.version = "_._" ∨ other.version = ".." ∧
            key.version = "_.._")) ∧
      ∀ (cache : CacheDirectory) (files files' : FileTree) (record : Record),
        cache.Clear files key → cache.Clear files other → cache.put key record files = .ok files' →
          CacheEntry.Writable ⟨key, record⟩ → key ≠ other →
            (key.Alike other → cache.get other files' = .ok none) ∧
              (¬ key.Alike other → ∀ served, cache.get other files' = .ok (some served) ↔
                cache.get other files = .ok (some served)) := by
  have shared : key.path = other.path ↔ key.Alike other :=
    CacheKey.path_eq_iff.trans CacheKey.names_eq_iff
  refine ⟨shared, ?_, ?_, ?_⟩
  · intro harmless harmless' same
    exact harmless.eq_of_alike harmless' (shared.1 same)
  · intro tag tag' same
    exact (version_tags_alike_iff tag tag').1 (shared.1 same).version
  · intro cache files files' record clear clear' put writable different
    refine ⟨fun alike =>
      CacheDirectory.get_hidden clear put writable different (shared.2 alike), ?_⟩
    intro apart served
    obtain ⟨between, root, puts⟩ := clear.puts put
    apply puts.get_other clear'
    exact fun same => apart (CacheKey.names_eq_iff.1 same.symm)

def pairKey (version challenge fingerprint : String) : CacheKey :=
  ⟨⟨challenge, "p", "t", 0, "m"⟩, ⟨challenge, "p", "t", 1, "m"⟩, fingerprint, "b", version⟩

def emptyRecord : Record := .ofFailure ⟨1735689600, 0⟩ (.internal "")

theorem pair_key_clear (version challenge fingerprint : String) :
    (⟨"similarity_analysis", "v1"⟩ : CacheDirectory).Clear .empty
      (pairKey version challenge fingerprint) where
  noLink root found way above some target here := by
    obtain rfl : ["similarity_analysis"] = root := Except.ok.inj found
    exact nomatch here
  steady := FileTree.steady_of_down (by decide) (by decide)

theorem empty_record_writable (version challenge fingerprint : String) :
    CacheEntry.Writable ⟨pairKey version challenge fingerprint, emptyRecord⟩ where
  reference := show 0 < iterationBound by decide
  candidate := show 1 < iterationBound by decide
  record := Record.of_failure_writable ⟨.inl (by decide), by decide, by decide⟩ _

theorem plain_pair_key_harmless (fingerprint : String) :
    (pairKey "v1" "c" fingerprint).Harmless where
  bucket := rfl
  version := show Harmless "v1" by decide
  challenge := show Harmless "c" by decide
  prompt := show Harmless "p" by decide
  temperature := show Harmless "t" by decide
  model := show Harmless "m" by decide

/-- What is put under a version of a single dot hides what is put under a dot between
underscores. -/
theorem dotted_version_hides_entries :
    (∃ files',
      (⟨"similarity_analysis", "v1"⟩ : CacheDirectory).put (pairKey "." "c" "a") emptyRecord
        .empty = .ok files' ∧
      (⟨"similarity_analysis", "v1"⟩ : CacheDirectory).get (pairKey "_._" "c" "a") files' =
        .ok none) ∧
      ("." = "_._" ∨ ("." = "." ∧ "_._" = "_._" ∨ "." = ".." ∧ "_._" = "_.._") ∨
        ("_._" = "." ∧ "." = "_._" ∨ "_._" = ".." ∧ "." = "_.._")) ∧
      (pairKey "v1" "c" "a").reference = (pairKey "v1" "c" "other").reference := by
  have alike : (pairKey "." "c" "a").Alike (pairKey "_._" "c" "a") := by
    constructor <;> decide
  obtain ⟨shared, -, tags, hides⟩ :=
    keys_share_documents_iff_alike (pairKey "." "c" "a") (pairKey "_._" "c" "a")
  obtain ⟨-, same, -, -⟩ :=
    keys_share_documents_iff_alike (pairKey "v1" "c" "a") (pairKey "v1" "c" "other")
  refine ⟨⟨_, rfl, ?_⟩, ?_, ?_⟩
  · exact (hides _ _ _ _ (pair_key_clear _ _ _) (pair_key_clear _ _ _) rfl
      (empty_record_writable _ _ _)
      (by decide)).1 alike
  · exact tags rfl rfl (shared.2 alike)
  · exact (same (plain_pair_key_harmless "a") (plain_pair_key_harmless "other") rfl).2.1

def challengeTree (challenge : String) : String × FileTree :=
  (challenge, ["p", "t", "m"].foldr (fun name tree => .directory [(name, tree)])
    (.directory [("iter_0__iter_1.json",
      .file (CacheEntry.write ⟨pairKey "v1" challenge "a", emptyRecord⟩).toUTF8)]))

/-- A cache with the documents of some challenges, and what stands before it. -/
def challengesTree (before : List (String × FileTree)) (challenges : List String) : FileTree :=
  .directory (before ++
    [("similarity_analysis", .directory [("v1", .directory (challenges.map challengeTree))])])

/-- The cache, by a path that steps back out of a directory. -/
def steppedCache : CacheDirectory := ⟨"gone/../similarity_analysis", "v1"⟩

/-- As long as the directory that the path steps back from is missing, no entry is served. It is
made as soon as anything is put, and then entries are served that were not before. -/
theorem step_back_opens_cache :
    steppedCache.get (pairKey "v1" "c" "a") (challengesTree [] ["c"]) = .ok none ∧
      steppedCache.put (pairKey "v1" "d" "a") emptyRecord (challengesTree [] ["c"]) =
        .ok (challengesTree [("gone", .empty)] ["c", "d"]) ∧
      steppedCache.get (pairKey "v1" "c" "a") (challengesTree [("gone", .empty)] ["c", "d"]) =
        .ok (some emptyRecord) := by
  have found : (challengesTree [("gone", .empty)] ["c", "d"]).find
      (steppedCache.entryPath (pairKey "v1" "c" "a")) =
        .ok (.file (CacheEntry.write ⟨pairKey "v1" "c" "a", emptyRecord⟩).toUTF8) := rfl
  have writable := empty_record_writable "v1" "c" "a"
  exact ⟨rfl, rfl, (CacheDirectory.get_found found writable).trans
    (congrArg Except.ok (if_pos rfl))⟩

/-- Two version tags that are both accepted share a directory and a document, and so do two
challenges. -/
theorem guarded_version_shares_documents :
    Config.isVersionTag "." = true ∧ Config.isVersionTag "_._" = true ∧
      (pairKey "." "c" "a").path = (pairKey "_._" "c" "a").path ∧
      (⟨"similarity_analysis", "."⟩ : CacheDirectory).versionPath =
        (⟨"similarity_analysis", "_._"⟩ : CacheDirectory).versionPath ∧
      (pairKey "v1" "a/b" "a").path = (pairKey "v1" "a_b" "a").path := by
  decide +kernel

end Sharing
end Resemblance
