import TaskTiming.Task.Params
import TaskTiming.Overheads.Codec

/-!
# Task parameters in JSON

The offset, the statistics, the overheads and the limit on jobs may be missing. Words that were read
as part of a larger value (`whole`) have one more form than those read directly.
-/

namespace TaskTiming
set_option autoImplicit false
open Json (Schema Decoder)

/-- A kind of release by its word. -/
def ReleaseKind.decoder (whole : Bool) : Decoder ReleaseKind :=
  Decoder.oneOf whole ("periodic", .periodic) ("aperiodic", .aperiodic)

def OverrunPolicy.decoder (whole : Bool) : Decoder OverrunPolicy :=
  Decoder.oneOf whole ("overwrite", .overwrite) ("reject", .reject)

def OverrunPolicy.word : OverrunPolicy → String
  | .overwrite => "overwrite"
  | .reject => "reject"

namespace StatsConfig

def schema (whole : Bool) : Schema StatsConfig where
  blank := standard
  fields := [
    ⟨"enabled", .defaulted, (fun b s => { s with enabled := b }) <$> Decoder.bool⟩,
    ⟨"capacity", .defaulted, (fun n s => { s with capacity := n }) <$> Decoder.uint64⟩,
    ⟨"policy", .defaulted, (fun p s => { s with policy := p }) <$> OverrunPolicy.decoder whole⟩]

def toJson (s : StatsConfig) : Json :=
  .object [("enabled", .bool s.enabled), ("capacity", .ofNat s.capacity.toNat),
    ("policy", .string s.policy.word)]

end StatsConfig

namespace TaskParams

def schema (whole : Bool) : Schema TaskParams where
  blank := { periodic "" .zero .zero with deadline := .zero }
  fields := [
    ⟨"name", .required, (fun s p => { p with name := s }) <$> Decoder.string⟩,
    ⟨"wcet", .required, (fun t p => { p with wcet := t }) <$> Decoder.time⟩,
    ⟨"period", .required, (fun t p => { p with period := t }) <$> Decoder.time⟩,
    ⟨"deadline", .required, (fun t p => { p with deadline := t }) <$> Decoder.time⟩,
    ⟨"offset", .defaulted, (fun t p => { p with offset := t }) <$> Decoder.time⟩,
    ⟨"release", .required, (fun r p => { p with release := r }) <$> ReleaseKind.decoder whole⟩,
    ⟨"stats", .defaulted, (fun s p => { p with stats := s }) <$> (StatsConfig.schema whole).read⟩,
    ⟨"overheads", .defaulted, (fun o p => { p with overheads := o }) <$> Overheads.schema.read⟩,
    ⟨"max_jobs", .defaulted, (fun n p => { p with maxJobs := n }) <$> Decoder.nullable Decoder.uint64⟩]

/-- The members of the object that holds a task's parameters. -/
def members (p : TaskParams) : List (String × Json) :=
  [("name", .string p.name), ("wcet", .ofTime p.wcet), ("period", .ofTime p.period),
    ("deadline", .ofTime p.deadline), ("offset", .ofTime p.offset),
    ("release", .string p.release.word), ("stats", p.stats.toJson),
    ("overheads", p.overheads.toJson), ("max_jobs", .ofOption (fun n => .ofNat n.toNat) p.maxJobs)]

def toJson (p : TaskParams) : Json := .object p.members

end TaskParams

end TaskTiming
