import TaskTiming.Log.Summary
import TaskTiming.Measure.Readable
import TaskTiming.Path

/-!
# Inspecting logs

What is printed of a log: its header, and then either its samples or the statistics of them. A log that is
corrupt further on is printed as far as it can be.
-/

namespace TaskTiming.Log
set_option autoImplicit false

/-- The lines on a header. -/
def headerLines (path : Path) (h : Header) : List String :=
  [path.text,
    "  task:       " ++ h.name ++ " (" ++ h.release.label ++ ")",
    "  wcet:       " ++ h.wcet.readableText,
    "  period:     " ++ h.period.readableText,
    "  deadline:   " ++ h.deadline.readableText,
    "  t0:         " ++ h.t0.text ++ "s",
    "  offset:     " ++ h.offset.readableText,
    "  overheads:  job stats " ++ h.overheads.jobStats.readableText ++ ", finish to start "
      ++ h.overheads.finishToStart.readableText]

/-- A text filled up with blanks in front. -/
def flushRight (width : Nat) (s : String) : String := String.ofList (s.toList.leftpad width ' ')

/-- A text filled up with blanks behind. -/
def flushLeft (width : Nat) (s : String) : String := String.ofList (s.toList.rightpad width ' ')

/-- The line on the sample at a position counted from one. -/
def sampleLine (position : Nat) (s : Sample) : String :=
  "  " ++ flushRight 6 (Decimal.text position) ++ " start " ++ s.start.text ++ "s finish " ++ s.finish.text
    ++ "s response " ++ s.responseTime.readableText

/-- The line on statistics, if there are any. -/
def measureLines (label : String) (m : Measure) : List String :=
  if 0 < m.count then ["  " ++ flushLeft 10 (label ++ ":") ++ "  " ++ m.text] else []

/-- The lines on a summary. -/
def summaryLines (h : Header) (s : Summary) : List String :=
  ["  samples:    " ++ Decimal.text s.samples]
    ++ measureLines "response" s.response
    ++ (if h.release = .periodic then measureLines "lateness" s.lateness else [])
    ++ ["  misses:     " ++ Decimal.text s.misses]

/-- The lines on the samples that are left, from a position on, and the error that ends them. -/
def sampleLines (position : Nat) (r : Reader) : List String × Result Unit :=
  match _h : r.next with
  | (.error e, _) => ([], .error e)
  | (.ok none, _) => ([], .ok ())
  | (.ok (some s), rest) =>
    let (lines, outcome) := sampleLines (position + 1) rest
    (sampleLine position s :: lines, outcome)
termination_by r.source.size
decreasing_by exact Reader.size_next _h

/-- The lines on what follows a header. -/
def bodyLines (r : Reader) (samples : Bool) : List String × Result Unit :=
  if r.header.statsDisabled then (["  statistics disabled"], .ok ())
  else if samples then sampleLines 1 r
  else
    match r.summarize with
    | .error e => ([], .error e)
    | .ok s => (summaryLines r.header s, .ok ())

/-- The lines on a log, and the error that ends them. -/
def inspect (path : Path) (source : Source) (samples : Bool) : List String × Result Unit :=
  match Reader.new source with
  | .error e => ([], .error e)
  | .ok r =>
    let (lines, outcome) := bodyLines r samples
    (headerLines path r.header ++ lines, outcome)

end TaskTiming.Log
