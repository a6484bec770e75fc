import Concord.Json.Decode

/-!
Jobs: one candidate for one backend.
-/

namespace Concord

structure Job where
  generation : String
  backend : String
  deriving DecidableEq, Repr

namespace Job

def decoder : Decoder Job :=
  .record "Job" ["generation_id", "backend"] fun r =>
    mk <$> r.required "generation_id" .text <*> r.required "backend" .text

def encode (job : Job) : Json :=
  .obj [("generation_id", .str job.generation), ("backend", .str job.backend)]

end Job

end Concord
