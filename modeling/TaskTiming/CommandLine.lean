import TaskTiming.CommandLine.Matching
import TaskTiming.Calibration.Request
import TaskTiming.Overheads.Measurement
import TaskTiming.Path

/-!
# The command line

The commands of the program, and how their words are read: `calibrate`, `overhead`, `run` and `inspect`,
with the path of the calibration store in front. What is wrong with a subcommand is reported before what
is wrong in front of it.
-/

namespace TaskTiming
set_option autoImplicit false
open CommandLine

/-- What the program is asked to do. -/
inductive Command
  | calibrate (request : Calibration.Request)
  | overhead (cpu : UInt64) (rounds : UInt32)
  | run (config : Path) (duration : Option Time)
  | inspect (logs : List Path) (samples : Bool)

/-- A command line that can be run. -/
structure Invocation where
  store : Path
  command : Command

namespace CommandLine

def helpOption : Opt := ⟨"help", some 'h', .help⟩
def storeOption : Opt := ⟨"store", some 's', .value .path⟩
def cpuOption : Opt := ⟨"cpu", some 'c', .value .index⟩
def targetOption : Opt := ⟨"target", some 't', .value .time⟩
def toleranceOption : Opt := ⟨"tolerance", none, .value .time⟩
def passesOption : Opt := ⟨"max-passes", none, .value .count⟩
def roundsOption : Opt := ⟨"rounds", some 'r', .value .count⟩
def durationOption : Opt := ⟨"duration", some 'd', .value .time⟩
def samplesOption : Opt := ⟨"samples", none, .flag⟩

/-- The words in front of a subcommand, and the subcommands. -/
def program : Usage :=
  { options := [storeOption, helpOption, ⟨"version", some 'V', .version⟩]
    paths := none
    subcommands := ["calibrate", "overhead", "run", "inspect", "help"] }

def calibrateUsage : Usage :=
  { options := [cpuOption, targetOption, toleranceOption, passesOption, helpOption]
    paths := none, subcommands := [] }

def overheadUsage : Usage :=
  { options := [cpuOption, roundsOption, helpOption], paths := none, subcommands := [] }

def runUsage : Usage :=
  { options := [durationOption, helpOption], paths := some ("config", false), subcommands := [] }

def inspectUsage : Usage :=
  { options := [samplesOption, helpOption], paths := some ("logs", true), subcommands := [] }

def defaultStore : Path := ⟨"calibration.json"⟩

/-- The target of a calibration unless another one is given. -/
def defaultTarget : Time := .ofMillis 500

/-- The tolerance of a calibration unless another one is given. -/
def defaultTolerance : Time := .ofMillis 1

/-- Matches all words of a subcommand. -/
def matchAll (u : Usage) (words : List String) : Except UsageError Matched := do
  let (m, _) ← matchWords u .start false words
  let m ← m.settle
  if u.paths.isSome && m.paths.isEmpty then throw .missingArgument
  return m

def timeOr (default : Time) (value : Option String) : Time :=
  (value.bind fun s => (Time.ofText? s).toOption).getD default

def calibrate (words : List String) : Except UsageError Command := do
  let m ← matchAll calibrateUsage words
  return .calibrate {
    cpu := ((m.value? "cpu").bind index?).getD 0
    target := timeOr defaultTarget (m.value? "target")
    tolerance := timeOr defaultTolerance (m.value? "tolerance")
    maxPasses := ((m.value? "max-passes").bind count?).getD Calibration.defaultPasses }

def overhead (words : List String) : Except UsageError Command := do
  let m ← matchAll overheadUsage words
  return .overhead (((m.value? "cpu").bind index?).getD 0)
    (((m.value? "rounds").bind count?).getD Overheads.defaultRounds)

def run (words : List String) : Except UsageError Command := do
  let m ← matchAll runUsage words
  match m.paths with
  | [] => throw .missingArgument
  | config :: _ =>
    return .run ⟨config⟩ ((m.value? "duration").bind fun s => (Time.ofText? s).toOption)

def inspect (words : List String) : Except UsageError Command := do
  let m ← matchAll inspectUsage words
  return .inspect (m.paths.map Path.mk) (m.value? "samples").isSome

/-- Help on a subcommand; a subcommand has none of its own. -/
def help : List String → UsageError
  | [] => .help
  | [name] => if program.subcommands.contains name then .help else .invalidSubcommand
  | _ => .invalidSubcommand

/-- Reads a subcommand. -/
def subcommand (name : String) (words : List String) : Except UsageError Command :=
  match name with
  | "calibrate" => calibrate words
  | "overhead" => overhead words
  | "run" => run words
  | "inspect" => inspect words
  | _ => .error (help words)

/-- Reads the words of a command line, without the name of the program. -/
def read (words : List String) : Except UsageError Invocation := do
  match ← matchWords program .start false words with
  | (m, some (name, rest)) =>
    let command ← subcommand name rest
    let m ← m.settle
    return { store := ((m.value? "store").map Path.mk).getD defaultStore, command }
  | (m, none) =>
    let m ← m.settle
    if m.options.isEmpty then throw .nothingGiven else throw .missingSubcommand

end CommandLine

end TaskTiming
