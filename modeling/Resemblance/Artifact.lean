import Resemblance.Tally

/-!
Artifacts: generated sources, each with its place in the experiment. Artifacts of one model,
challenge, prompt and temperature form a bucket; they are compared with each other across its
iterations.
-/

namespace Resemblance

/-- The place of an artifact in the experiment. -/
structure ArtifactId where
  challenge : String
  prompt : String
  temperature : String
  iteration : Nat
  model : String
  deriving DecidableEq, Repr

/-- What the artifacts of a bucket have in common. -/
structure BucketKey where
  model : String
  challenge : String
  prompt : String
  temperature : String
  deriving DecidableEq, Repr

namespace BucketKey

def write (key : BucketKey) : String :=
  s!"{key.model}/{key.challenge}/{key.prompt}/{key.temperature}"

def le (a b : BucketKey) : Bool :=
  textsLe [a.model, a.challenge, a.prompt, a.temperature]
    [b.model, b.challenge, b.prompt, b.temperature]

end BucketKey

namespace ArtifactId

def bucket (id : ArtifactId) : BucketKey :=
  ⟨id.model, id.challenge, id.prompt, id.temperature⟩

theorem bucket_eq_iff {a b : ArtifactId} : a.bucket = b.bucket ↔
    a.model = b.model ∧ a.challenge = b.challenge ∧ a.prompt = b.prompt ∧
      a.temperature = b.temperature := by
  simp only [bucket, BucketKey.mk.injEq]

def write (id : ArtifactId) : String :=
  s!"{id.challenge}/{id.prompt}/{id.temperature}/iteration_{id.iteration}/{id.model}"

def le (a b : ArtifactId) : Bool :=
  let outer := [a.challenge, a.prompt, a.temperature]
  let outer' := [b.challenge, b.prompt, b.temperature]
  if outer == outer' then
    if a.iteration == b.iteration then textLe a.model b.model else a.iteration < b.iteration
  else textsLe outer outer'

end ArtifactId

structure ArtifactLocation where
  id : ArtifactId
  path : String
  deriving DecidableEq, Repr

/-- The artifacts of one bucket, by iteration. -/
structure Bucket where
  key : BucketKey
  members : List ArtifactLocation

namespace Bucket

/-- Groups artifacts by bucket, the buckets in the order of their keys. Members of one iteration
keep their order. -/
def group (locations : List ArtifactLocation) : List Bucket :=
  (distinct BucketKey.le (locations.map fun location => location.id.bucket)).map fun key =>
    { key
      members := (locations.filter fun location => location.id.bucket == key).mergeSort
        fun a b => a.id.iteration ≤ b.id.iteration }

/-- The ordered pairs of positions whose members are of different iterations, row by row. -/
def orderedPairs (bucket : Bucket) : List (Nat × Nat) :=
  let places := bucket.members.zipIdx
  places.flatMap fun reference =>
    (places.filter fun candidate => reference.1.id.iteration != candidate.1.id.iteration).map
      fun candidate => (reference.2, candidate.2)

end Bucket
end Resemblance
