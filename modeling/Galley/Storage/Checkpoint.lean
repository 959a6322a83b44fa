import Galley.Json.ShapeReader

/-!
# Checkpoints

A checkpoint is where a projection can resume: the last sequence it has folded, and the state it had
then, as JSON. A store of checkpoints keeps one for each name; saving replaces it.
-/

namespace Galley

/-- Where a projection can resume. -/
structure Checkpoint where
  name : String
  position : Nat
  state : Json
  updatedAt : Instant

namespace Checkpoint

/-- The shape of a checkpoint. -/
abbrev shape : Json.Shape :=
  .record "ProjectionCheckpoint"
    (.cons "name" .required .text
      (.cons "position" .required .word64
        (.cons "state" .required .json
          (.cons "updated_at" .required .instant .nil))))

/-- The checkpoint as data of its shape. -/
def toData (c : Checkpoint) : shape.Value := (c.name, c.position, c.state, c.updatedAt, ())

/-- The checkpoint as JSON. -/
def toJson (c : Checkpoint) : Json := shape.encode c.toData

end Checkpoint

/-- A store of checkpoints. -/
structure CheckpointStore where
  entries : List (String × Checkpoint)

namespace CheckpointStore

/-- The store without checkpoints. -/
def empty : CheckpointStore := ⟨[]⟩

instance : Inhabited CheckpointStore := ⟨empty⟩

/-- The checkpoint of a name. -/
def load (s : CheckpointStore) (name : String) : Option Checkpoint := s.entries.lookup name

/-- The store with the checkpoint saved under its name. -/
def save (s : CheckpointStore) (c : Checkpoint) : CheckpointStore :=
  ⟨Json.insertMember c.name c s.entries⟩

end CheckpointStore

end Galley
