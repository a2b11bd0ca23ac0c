import Resemblance.Cache.Key
import Resemblance.Json.Read
import Resemblance.Json.Write
import Resemblance.Record.Json

/-!
Entries of the cache: a record together with the key it was kept under. The key inside an entry
tells whether the entry still is of the contents that are asked for.
-/

namespace Resemblance

structure CacheEntry where
  key : CacheKey
  record : Record

namespace CacheEntry

def toJson (entry : CacheEntry) : Json :=
  .ofMembers
    [("reference", entry.key.reference.toJson),
     ("candidate", entry.key.candidate.toJson),
     ("reference_fingerprint", .ofText entry.key.referenceFingerprint),
     ("candidate_fingerprint", .ofText entry.key.candidateFingerprint),
     ("metric_set_version", .ofText entry.key.version),
     ("record", entry.record.toJson)]

def ofJson? (json : Json) : Option CacheEntry := do
  match ← json.slots?
      [.named "reference", .named "candidate", .named "reference_fingerprint",
       .named "candidate_fingerprint", .named "metric_set_version", .named "record"] with
  | [reference, candidate, referenceFingerprint, candidateFingerprint, version, record] =>
      some
        { key :=
            { reference := ← Json.required ArtifactId.ofJson? reference
              candidate := ← Json.required ArtifactId.ofJson? candidate
              referenceFingerprint := ← Json.required Json.toText? referenceFingerprint
              candidateFingerprint := ← Json.required Json.toText? candidateFingerprint
              version := ← Json.required Json.toText? version }
          record := ← Json.required Record.ofJson? record }
  | _ => none

def write (entry : CacheEntry) : String :=
  Json.pretty entry.toJson

def read (text : String) : Option CacheEntry :=
  (Json.read text).bind ofJson?

end CacheEntry
end Resemblance
