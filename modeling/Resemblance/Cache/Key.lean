import Resemblance.Artifact
import Resemblance.Failure

/-!
Keys of the cache. A key names both artifacts of a comparison, the fingerprints of their contents
and the version of the metrics; the first and last of these decide in which file an entry is kept.
-/

namespace Resemblance

/-- What an entry of the cache is kept under. -/
structure CacheKey where
  reference : ArtifactId
  candidate : ArtifactId
  referenceFingerprint : String
  candidateFingerprint : String
  version : String
  deriving DecidableEq, Repr

/-- The fingerprint of an artifact that could not be read; no content has it. -/
def unreadableFingerprint : String := "unreadable"

def endsName (c : Char) : Bool :=
  c == '/' || c == '\\' || c == '\x00'

/-- A text as a single name in a path: what would end the name is replaced, and names that stand for
a place are set between underscores. -/
def safeName (text : String) : String :=
  let cleaned := text.toList.map fun c => if endsName c then '_' else c
  if cleaned.isEmpty || cleaned == ['.'] || cleaned == ['.', '.'] then
    String.ofList ('_' :: cleaned ++ ['_'])
  else String.ofList cleaned

namespace CacheKey

/-- The key of a comparison, whose artifacts must be of one bucket. -/
def ofParts (reference candidate : ArtifactId)
    (referenceFingerprint candidateFingerprint version : String) : Except Failure CacheKey :=
  if reference.bucket = candidate.bucket then
    .ok ⟨reference, candidate, referenceFingerprint, candidateFingerprint, version⟩
  else
    .error (.validation
      s!"cannot key a comparison across buckets: {reference.write} vs {candidate.write}" none)

def fileName (key : CacheKey) : String :=
  s!"iter_{key.reference.iteration}__iter_{key.candidate.iteration}.json"

def names (key : CacheKey) : List String :=
  [safeName key.version, safeName key.reference.challenge, safeName key.reference.prompt,
   safeName key.reference.temperature, safeName key.reference.model, key.fileName]

def path (key : CacheKey) : String :=
  "/".intercalate key.names

end CacheKey
end Resemblance
