import TaskTiming.CommandLine.Usage
import TaskTiming.Text.Line

/-!
# Matching a command line

Words are taken one by one. The value of an option that stands as a word of its own is looked at only when
the next option or argument comes, or at the end, so that an unknown option behind it is reported first;
a value in the same word is looked at right away. Behind `--` all words are arguments.
-/

namespace TaskTiming.CommandLine
set_option autoImplicit false

/-- What is waiting to be looked at. -/
inductive Pending
  | nothing
  /-- An option that still has no value. -/
  | option (o : Opt) (kind : ValueKind)
  /-- An option with its value. -/
  | valued (o : Opt) (kind : ValueKind) (value : String)
  /-- Paths in a row. -/
  | paths (values : List String)
deriving DecidableEq, Repr

/-- What was matched so far. -/
structure Matched where
  /-- The options by their names, with their values. -/
  options : List (String × String)
  paths : List String
  pending : Pending
deriving DecidableEq, Repr

namespace Matched

def start : Matched := { options := [], paths := [], pending := .nothing }

def value? (m : Matched) (name : String) : Option String :=
  (m.options.find? (·.1 = name)).map (·.2)

/-- Takes an option with its value, unless it was there before. -/
def take (m : Matched) (o : Opt) (value : String) (check : Except UsageError Unit) :
    Except UsageError Matched := do
  if (m.value? o.name).isSome then throw .repeatedOption
  check
  return { m with options := m.options ++ [(o.name, value)], pending := .nothing }

/-- Looks at what is waiting. -/
def settle (m : Matched) : Except UsageError Matched :=
  match m.pending with
  | .nothing => .ok m
  | .option _ _ => .error .missingValue
  | .valued o kind value => m.take o value (kind.check value)
  | .paths values => do
    values.forM ValueKind.path.check
    return { m with paths := m.paths ++ values, pending := .nothing }

/-- An option without a value. -/
def flag (m : Matched) (o : Opt) : Except UsageError Matched := do
  let m ← m.settle
  match o.kind with
  | .help => throw .help
  | .version => throw .version
  | _ => m.take o "" (.ok ())

/-- An option that takes a value, which may be in the same word. -/
def option (m : Matched) (o : Opt) (kind : ValueKind) (attached : Option String) :
    Except UsageError Matched := do
  let m ← m.settle
  match attached with
  | some value => m.take o value (kind.check value)
  | none => return { m with pending := .option o kind }

/-- A word that begins with two hyphens. -/
def long (u : Usage) (m : Matched) (word : List Char) : Except UsageError Matched :=
  let (name, attached) := match Text.splitOnce '=' word with
    | some (name, value) => (String.ofList name, some (String.ofList value))
    | none => (String.ofList word, none)
  match u.long? name with
  | none => .error .unknownArgument
  | some o =>
    match o.kind, attached with
    | .value kind, attached => m.option o kind attached
    | _, some _ => .error .unwantedValue
    | _, none => m.flag o

/-- A word of letters behind one hyphen; the value of an option may follow its letter. -/
def short (u : Usage) (m : Matched) : List Char → Except UsageError Matched
  | [] => .ok m
  | letter :: rest =>
    match u.short? letter with
    | none => .error .unknownArgument
    | some o =>
      match o.kind with
      | .value kind =>
        m.option o kind <| match rest with
          | [] => none
          | '=' :: value => some (String.ofList value)
          | value => some (String.ofList value)
      | _ => do
        let m ← m.flag o
        short u m rest

/-- An argument without a name. -/
def argument (u : Usage) (m : Matched) (word : String) (plain : Bool) : Except UsageError Matched :=
  match u.paths with
  | none =>
    .error (if u.subcommands.isEmpty || (plain && u.subcommands.contains word) then .unknownArgument
      else .invalidSubcommand)
  | some (_, many) =>
    match m.pending with
    | .paths values =>
      if many then .ok { m with pending := .paths (values ++ [word]) } else .error .unknownArgument
    | _ =>
      if !many && !m.paths.isEmpty then .error .unknownArgument
      else do
        let m ← m.settle
        return { m with pending := .paths [word] }

end Matched

/-- Where the matching of a command's words stopped: at their end, or at a subcommand with its words. -/
abbrev Rest := Option (String × List String)

/-- Matches the words of a command; `plain` says that `--` was among those before. -/
def matchWords (u : Usage) (m : Matched) (plain : Bool) : List String → Except UsageError (Matched × Rest)
  | [] => .ok (m, none)
  | word :: rest =>
    if plain then do
      matchWords u (← m.argument u word true) true rest
    else
      let expectsValue := match m.pending with
        | .option _ _ => true
        | _ => false
      if !expectsValue && u.subcommands.contains word then .ok (m, some (word, rest))
      else if word = "--" then matchWords u m true rest
      else
        match word.toList, m.pending with
        | '-' :: '-' :: name, _ => do
          matchWords u (← m.long u name) false rest
        | '-' :: letter :: letters, _ => do
          matchWords u (← m.short u (letter :: letters)) false rest
        | _, .option o kind => matchWords u { m with pending := .valued o kind word } false rest
        | _, _ => do
          matchWords u (← m.argument u word false) false rest

end TaskTiming.CommandLine
