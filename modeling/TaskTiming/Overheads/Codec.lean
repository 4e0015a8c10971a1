import TaskTiming.Overheads
import TaskTiming.Json.Record

/-!
# Overheads in JSON
-/

namespace TaskTiming.Overheads
set_option autoImplicit false
open Json (Schema)

def schema : Schema Overheads where
  blank := none
  fields := [
    ⟨"job_stats", .required, (fun t o => { o with jobStats := t }) <$> Json.Decoder.time⟩,
    ⟨"finish_to_start", .required, (fun t o => { o with finishToStart := t }) <$> Json.Decoder.time⟩]

def toJson (o : Overheads) : Json :=
  .object [("job_stats", .ofTime o.jobStats), ("finish_to_start", .ofTime o.finishToStart)]

end TaskTiming.Overheads
