import PeerLending.Cli.Args
import PeerLending.Double

/-!
# The command line

The program takes one global option and four commands:

* `--format table|json` (default `table`), accepted before or after the command;
* `markets`, `user`: `--snapshot PATH`;
* `capacity`: `--snapshot PATH --market ADDRESS [--operation KIND]`;
* `simulate`: `--snapshot PATH --op OPERATION...` (at least one, repeatable).

`--snapshot` may instead come from an environment variable (`snapshotVariable`). `-h` or
`--help` (or the `help` command) prints help; a malformed command line prints a usage error.

The line is read left to right, one level at a time: first the program's own options up to the
command's name, then the command's options. An option's value is settled only when the next
option comes, or when its level ends: then a missing value, an option given twice and a value the
option refuses are reported. A token that cannot be read ends the reading with its own failure,
whatever is still unsettled. A command's level is finished (its values settled, the snapshot
taken from the environment when not given, and missing options reported all together) before the
program's pending value is settled.

Near misses are pointed out: an unknown command, option or value is compared with the known ones
by Jaro similarity, computed in doubles, and those scoring above 0.7 are suggested, the best
last, of equal scores the later one.
-/

set_option autoImplicit false

namespace PeerLending

namespace Cli

/-- How results are written. -/
inductive OutputFormat where
  | table
  | json
deriving DecidableEq

/-- What to run. -/
inductive Command where
  | markets (snapshot : String)
  | user (snapshot : String)
  | capacity (snapshot : String) (market : Address) (operation : Option OperationKind)
  | simulate (snapshot : String) (ops : List OperationArg)

/-- A command with its output format. -/
structure Invocation where
  format : OutputFormat
  command : Command

/-- What a command line asks for. -/
inductive Request where
  /-- Run a command. -/
  | run (inv : Invocation)
  /-- Print help and succeed. -/
  | help (text : String)
  /-- Print a usage error and fail; `text` is the whole message. -/
  | usage (text : String)

/-- The program's name. -/
def programName : String := "morpho-p2p"

/-- The environment variable naming the snapshot file. -/
def snapshotVariable : String := "MORPHO_P2P_SNAPSHOT"

/-! ## Similarity -/

/-- Marks, for each character of `a`, whether it matches a not yet matched character of `b`
within `range` positions; returns both mark lists. -/
def jaroMarks (a b : List Char) (range : Nat) : List Bool × List Bool :=
  let step (acc : List Bool × List Bool × Nat) (c : Char) : List Bool × List Bool × Nat :=
    let (am, bm, i) := acc
    let lo := i - range
    let hi := Nat.min b.length (i + range + 1)
    let hit := (List.range hi).find? fun j => lo ≤ j && b.getD j ' ' == c && !(bm.getD j true)
    match hit with
    | some j => (am ++ [true], bm.set j true, i + 1)
    | none => (am ++ [false], bm, i + 1)
  let (am, bm, _) := a.foldl step ([], List.replicate b.length false, 0)
  (am, bm)

/-- The double nearest a fraction of small numbers. -/
def fraction (n d : Nat) : Double := (Double.round false n d).getD (Double.zero false)

/-- The double nearest the sum of two doubles of small value. -/
def plus (a b : Double) : Double := (a.add b).getD (Double.zero false)

/-- The Jaro similarity of two strings, `((m/|a| + m/|b|) + (m - t)/m) / 3` for `m` matches
and `t` half-transpositions, each step rounded to the nearest double; one for two empty strings,
zero when exactly one is empty or nothing matches. -/
def jaro (a b : String) : Double :=
  let a := a.toList
  let b := b.toList
  if a.isEmpty && b.isEmpty then fraction 1 1
  else if a.isEmpty || b.isEmpty then fraction 0 1
  else
    let range := Nat.max a.length b.length / 2 - 1
    let (am, bm) := jaroMarks a b range
    let aMatched := (a.zip am).filterMap fun (c, m) => if m then some c else none
    let bMatched := (b.zip bm).filterMap fun (c, m) => if m then some c else none
    let m := aMatched.length
    if m = 0 then fraction 0 1
    else
      let t := ((aMatched.zip bMatched).filter fun (x, y) => x ≠ y).length / 2
      let sum := plus (plus (fraction m a.length) (fraction m b.length)) (fraction (m - t) m)
      (sum.div (fraction 3 1)).getD (Double.zero false)

/-- Whether the similarity exceeds the double nearest 0.7. -/
def similar (a b : String) : Bool := (jaro a b).compareValue (fraction 7 10) == .gt

/-- The candidates similar to `s`, by increasing similarity; of equal ones, the earlier first. -/
def didYouMean (s : String) (candidates : List String) : List String :=
  let scored := (candidates.filter (similar s)).map fun c => (jaro s c, c)
  let insert (acc : List (Double × String)) (x : Double × String) :=
    acc.filter (fun y => y.1.compareValue x.1 != .gt) ++
      x :: acc.filter (fun y => y.1.compareValue x.1 == .gt)
  (scored.foldl insert []).map (·.2)

/-! ## Options -/

/-- How an option's value is checked. -/
inductive ValueKind where
  /-- A path: any non-empty text. -/
  | path
  /-- One of a few names. -/
  | choice (names : List String)
  /-- Text read by a parser; the failure is its message. -/
  | parsed (check : String → Option String)

/-- An option taking a value. -/
structure OptionSpec where
  long : String
  valueName : String
  help : String
  required : Bool
  repeated : Bool
  kind : ValueKind
  /-- An environment variable that stands in for the option. -/
  env : Option String
  /-- The default shown in help. -/
  default : Option String

/-- The option as written in messages: `--long <VALUE>`. -/
def OptionSpec.display (o : OptionSpec) : String := "--" ++ o.long ++ " <" ++ o.valueName ++ ">"

/-- A command's name, its one-line description and its own options, in order. -/
structure CommandSpec where
  name : String
  about : String
  options : List OptionSpec

/-- The global format option. -/
def formatOption : OptionSpec :=
  { long := "format", valueName := "FORMAT", help := "Output format", required := false,
    repeated := false, kind := .choice ["table", "json"], env := none, default := some "table" }

/-- The snapshot option. -/
def snapshotOption : OptionSpec :=
  { long := "snapshot", valueName := "SNAPSHOT",
    help := "Snapshot JSON file (can also use MORPHO_P2P_SNAPSHOT env var)", required := true,
    repeated := false, kind := .path, env := some snapshotVariable, default := none }

/-- Whether a text reads as an address; the failure is its message. -/
def checkAddress (s : String) : Option String :=
  match Address.parse s with
  | .ok _ => none
  | .error e => some e.message

/-- Whether a text names an operation kind; the failure is its message. -/
def checkKind (s : String) : Option String :=
  match OperationKind.parse? s with
  | some _ => none
  | none => some (OperationKind.parseFailure s)

/-- Whether a text is an operation; the failure is its message. -/
def checkOperation (s : String) : Option String :=
  match OperationArg.parse s with
  | .ok _ => none
  | .error m => some m

/-- The four commands. -/
def commands : List CommandSpec :=
  [ { name := "markets", about := "List markets with indexes, APYs and matching ratios",
      options := [snapshotOption] },
    { name := "user", about := "Show the user's positions and health",
      options := [snapshotOption] },
    { name := "capacity", about := "Maximum amount per operation and the binding constraint",
      options := [snapshotOption,
        { long := "market", valueName := "MARKET", help := "Market underlying address",
          required := true, repeated := false, kind := .parsed checkAddress, env := none,
          default := none },
        { long := "operation", valueName := "OPERATION",
          help := "Operation to query (omit to query every operation)", required := false,
          repeated := false, kind := .parsed checkKind, env := none, default := none }] },
    { name := "simulate", about := "Simulate a sequence of operations",
      options := [snapshotOption,
        { long := "op", valueName := "OPS",
          help := "Operation as kind:market:amount[:unwrap], amount in human-readable units " ++
            "(e.g., \"100.5\") or \"max\"; repeat for a sequence",
          required := true, repeated := true, kind := .parsed checkOperation, env := none,
          default := none }] } ]

/-- The options a command recognises, in the order they are matched and suggested: its own,
then the global format option. -/
def CommandSpec.accepted (c : CommandSpec) : List OptionSpec := c.options ++ [formatOption]

/-- The longs of a command's required options. -/
def CommandSpec.required (c : CommandSpec) : List String := (c.options.filter (·.required)).map (·.long)

/-- The names a command can be called by, the help command included. -/
def commandNames : List String := commands.map (·.name) ++ ["help"]

/-! ## Help -/

/-- Spaces. -/
def spaces (n : Nat) : String := String.ofList (List.replicate n ' ')

/-- The bracketed notes after an option's help: default, choices, environment variable. -/
def OptionSpec.notes (o : OptionSpec) (env : Option String) : List String :=
  (match o.default with
   | some d => ["[default: " ++ d ++ "]"]
   | none => []) ++
  (match o.kind with
   | .choice names => ["[possible values: " ++ ", ".intercalate names ++ "]"]
   | _ => []) ++
  (match o.env with
   | some name => ["[env: " ++ name ++ "=" ++ env.getD "" ++ "]"]
   | none => [])

/-- The options section: each option, then `-h, --help`, with help texts in one column; a line
break in a help text goes on at that column. -/
def optionLines (options : List OptionSpec) (env : Option String) : List String :=
  let width := (options.map fun o => o.display.length).foldl Nat.max "--help".length
  let line (o : OptionSpec) :=
    let text := " ".intercalate (o.help :: o.notes env)
    let text := ("\n" ++ spaces (width + 8)).intercalate (text.splitOn "\n")
    "      " ++ o.display ++ spaces (width - o.display.length + 2) ++ text
  options.map line ++ ["  -h, --help" ++ spaces (width - "--help".length + 2) ++ "Print help"]

/-- The usage of a command in help: the required options after `[OPTIONS]`. -/
def CommandSpec.usage (c : CommandSpec) : String :=
  " ".intercalate ([programName, c.name, "[OPTIONS]"] ++
    (c.options.filter (·.required)).map (·.display))

/-- The usage of the program. -/
def programUsage : String := programName ++ " [OPTIONS] <COMMAND>"

/-- The program's help. -/
def programHelp : String :=
  let entries := commands.map (fun c => (c.name, c.about)) ++
    [("help", "Print this message or the help of the given subcommand(s)")]
  let width := (entries.map fun e => e.1.length).foldl Nat.max 0
  "\n".intercalate (["CLI tool for inspecting and simulating peer-to-peer lending positions", "",
    "Usage: " ++ programUsage, "", "Commands:"] ++
    entries.map (fun (n, a) => "  " ++ n ++ spaces (width - n.length + 2) ++ a) ++
    ["", "Options:"] ++ optionLines [formatOption] none) ++ "\n"

/-- A command's help; the global option is listed first. -/
def CommandSpec.helpText (c : CommandSpec) (env : Option String) : String :=
  "\n".intercalate ([c.about, "", "Usage: " ++ c.usage, "", "Options:"] ++
    optionLines (formatOption :: c.options) env) ++ "\n"

/-- The usage of the help command. -/
def helpCommandUsage : String := programName ++ " help [COMMAND]..."

/-- The help command's own help. -/
def helpCommandHelp : String :=
  "\n".intercalate ["Print this message or the help of the given subcommand(s)", "",
    "Usage: " ++ helpCommandUsage, "", "Arguments:",
    "  [COMMAND]...  Print help for the subcommand(s)"] ++ "\n"

/-! ## Errors -/

/-- The closing line of every usage error. -/
def tryHelp : String := "\n\nFor more information, try '--help'.\n"

/-- A tip line. -/
def tip (text : String) : String := "\n\n  tip: " ++ text

/-- The tip naming similar candidates. -/
def similarTip (what : String) : List String → String
  | [] => ""
  | [one] => tip ("a similar " ++ what ++ " exists: '" ++ one ++ "'")
  | many => tip ("some similar " ++ what ++ "s exist: " ++ ", ".intercalate (many.map fun s => "'" ++ s ++ "'"))

/-- A usage error with a usage line. -/
def errorWithUsage (message usage : String) : String :=
  "error: " ++ message ++ "\n\nUsage: " ++ usage ++ tryHelp

/-- A token that no option or command stands for, with an optional tip. -/
def unexpectedArgument (token tipText usage : String) : String :=
  "error: unexpected argument '" ++ token ++ "' found" ++ tipText ++ "\n\nUsage: " ++ usage ++ tryHelp

/-- A value given to the help flag. -/
def unexpectedValue (value usage : String) : String :=
  errorWithUsage ("unexpected value '" ++ value ++ "' for '--help' found; no more were expected") usage

/-- A value that the option refuses, or an empty one. -/
def invalidValue (o : OptionSpec) (value : String) : String :=
  let head :=
    if value.isEmpty then "a value is required for '" ++ o.display ++ "' but none was supplied"
    else "invalid value '" ++ value ++ "' for '" ++ o.display ++ "'"
  let listed := match o.kind with
    | .choice names => "\n  [possible values: " ++ ", ".intercalate names ++ "]"
    | _ => ""
  let suggested := match o.kind with
    | .choice names =>
      match (didYouMean value names).getLast? with
      | some s => if value.isEmpty then "" else tip ("a similar value exists: '" ++ s ++ "'")
      | none => ""
    | _ => ""
  "error: " ++ head ++ listed ++ suggested ++ tryHelp

/-- Checks a value as the option reads it; the failure is the whole message. -/
def checkValue (o : OptionSpec) (value : String) : Option String :=
  match o.kind with
  | .path => if value.isEmpty then some (invalidValue o value) else none
  | .choice names => if names.contains value then none else some (invalidValue o value)
  | .parsed check =>
    match check value with
    | some reason => some ("error: invalid value '" ++ value ++ "' for '" ++ o.display ++ "': " ++
        reason ++ tryHelp)
    | none => none

/-- Whether a token is a cluster of short flags: a dash and something after it. -/
def startsOption (t : String) : Bool := t.startsWith "-" && t.length > 1

/-- A long option token split at its first `=`: the name and the inline value. -/
def splitLong (t : String) : String × Option String :=
  let body := String.ofList (t.toList.drop 2)
  match body.splitOn "=" with
  | n :: v :: vs => (n, some ("=".intercalate (v :: vs)))
  | _ => (body, none)

/-! ## Usage lines -/

/-- The names in their order, each once. -/
def dedupe (names : List String) : List String :=
  names.foldl (fun acc n => if acc.contains n then acc else acc ++ [n]) []

/-- An option, or the help flag, as a usage line shows it. -/
def usageName (options : List OptionSpec) (long : String) : Option String :=
  if long = "help" then some "--help" else (options.find? (·.long = long)).map (·.display)

/-- A command's usage line in an error, given the options used: without any, the usage of its
help; otherwise the required options, then the others used. -/
def CommandSpec.usageWith (c : CommandSpec) (used : List String) : String :=
  if used.isEmpty then c.usage
  else " ".intercalate ([programName, c.name] ++ (dedupe (c.required ++ used)).filterMap (usageName c.accepted))

/-- The program's usage line in an error, given the options used. -/
def programUsageWith (used : List String) : String :=
  if used.isEmpty then programUsage
  else " ".intercalate ([programName] ++ (dedupe used).filterMap (usageName [formatOption]) ++ ["<COMMAND>"])

/-! ## Reading one level of the line -/

/-- The values accepted so far, by option, in the order they were read. -/
abbrev Given := List (String × String)

/-- The values given for an option. -/
def valuesOf (given : Given) (long : String) : List String :=
  given.filterMap fun (k, v) => if k = long then some v else none

/-- The first value given for an option. -/
def firstValue (given : Given) (long : String) : Option String := (valuesOf given long).head?

/-- What has been read of one level of the line. -/
structure Reading where
  /-- The accepted values. -/
  given : Given
  /-- The options given, each once, in the order of first use; one whose value was refused
  counts too. -/
  used : List String
  /-- An option still to be settled, with its value once read. -/
  pending : Option (OptionSpec × Option String)

namespace Reading

/-- Nothing read yet. -/
def empty : Reading := ⟨[], [], none⟩

/-- Whether an option waits for its value. -/
def awaitingValue (r : Reading) : Bool :=
  match r.pending with
  | some (_, none) => true
  | _ => false

/-- Counts an option as used. -/
def use (r : Reading) (long : String) : Reading :=
  if r.used.contains long then r else { r with used := r.used ++ [long] }

/-- Takes a value for an option: an option that may not repeat and was given before conflicts
(reported with `usage`); otherwise the option counts as used and the value is checked. Returns
the state after, and the failure if any. -/
def accept (r : Reading) (o : OptionSpec) (v : String) (usage : String) : Reading × Option String :=
  if !o.repeated && r.used.contains o.long then
    (r, some (errorWithUsage ("the argument '" ++ o.display ++ "' cannot be used multiple times") usage))
  else
    let r := r.use o.long
    match checkValue o v with
    | some m => (r, some m)
    | none => ({ r with given := r.given ++ [(o.long, v)] }, none)

/-- Settles the pending option: one without a value is refused, one with a value is accepted. -/
def settle (r : Reading) (usage : String) : Reading × Option String :=
  match r.pending with
  | none => (r, none)
  | some (o, none) => ({ r with pending := none }, some (invalidValue o ""))
  | some (o, some v) => { r with pending := none }.accept o v usage

/-- The reading with a value for the option that waits for one. -/
def withValue (r : Reading) (v : String) : Reading :=
  { r with pending := r.pending.map fun (o, _) => (o, some v) }

end Reading

/-- What reading a level ends with. -/
inductive LevelResult where
  /-- The level was read and settled. -/
  | finished (r : Reading)
  /-- Help was asked for. -/
  | help (text : String)
  /-- A usage error: the whole message. -/
  | failed (message : String)

/-- Goes on with `next` when the pending option settles well, and fails otherwise. -/
def Reading.settleThen (r : Reading) (usage : String) (next : Reading → LevelResult) : LevelResult :=
  match r.settle usage with
  | (_, some m) => .failed m
  | (r, none) => next r

/-- Reads an option with an inline value or none: the pending option is settled first, then the
inline value is taken, or the option waits for the next token. -/
def Reading.takeOption (r : Reading) (o : OptionSpec) (inline : Option String) (usage : String)
    (next : Reading → LevelResult) : LevelResult :=
  r.settleThen usage fun r =>
    match inline with
    | some v =>
      match r.accept o v usage with
      | (_, some m) => .failed m
      | (r, none) => next r
    | none => next { r with pending := some (o, none) }

/-- The failure for an unknown long option of a command, with the closest option as a tip; the
tip counts as used in the usage line. -/
def CommandSpec.unknownLong (c : CommandSpec) (name : String) (r : Reading) : String :=
  match (didYouMean name (c.accepted.map (·.long) ++ ["help"])).getLast? with
  | some s =>
    unexpectedArgument ("--" ++ name) (tip ("a similar argument exists: '--" ++ s ++ "'"))
      (c.usageWith (r.use s).used)
  | none => unexpectedArgument ("--" ++ name) "" (c.usageWith r.used)

/-- Settles a command's level at its end: the pending option, then the snapshot from the
environment when it was not given, then the check that every required option is there. -/
def CommandSpec.finish (c : CommandSpec) (env : Option String) (r : Reading) : LevelResult :=
  r.settleThen c.usage fun r =>
    let fromEnv : Reading × Option String :=
      match env with
      | some value =>
        if r.used.contains snapshotOption.long then (r, none) else r.accept snapshotOption value c.usage
      | none => (r, none)
    match fromEnv with
    | (_, some m) => .failed m
    | (r, none) =>
      let missing := c.options.filter fun o => o.required && !r.used.contains o.long
      if missing.isEmpty then .finished r
      else
        .failed ("error: the following required arguments were not provided:\n" ++
          "\n".intercalate (missing.map fun o => "  " ++ o.display) ++ "\n\nUsage: " ++
          c.usageWith (r.used ++ missing.map (·.long)) ++ tryHelp)

/-- The first flag of a cluster of short flags. -/
def firstFlag (t : String) : List Char := (t.toList.drop 1).take 1

/-- Reads a command's tokens, left to right. -/
def CommandSpec.readTokens (c : CommandSpec) (env : Option String) : List String → Reading → LevelResult
  | [], r => c.finish env r
  | t :: rest, r =>
    if t = "--" then
      r.settleThen c.usage fun r =>
        match rest with
        | [] => c.finish env r
        | u :: _ => .failed (unexpectedArgument u "" c.usage)
    else if t.startsWith "--" then
      let (name, inline) := splitLong t
      if name = "help" then
        match inline with
        | some v =>
          .failed (unexpectedValue v (c.usageWith (r.used.filter (!c.required.contains ·) ++ ["help"])))
        | none => r.settleThen c.usage fun _ => .help (c.helpText env)
      else
        match c.accepted.find? (·.long = name) with
        | some o => r.takeOption o inline c.usage (c.readTokens env rest)
        | none => .failed (c.unknownLong name (r.settle c.usage).1)
    else if startsOption t then
      if firstFlag t = ['h'] then r.settleThen c.usage fun _ => .help (c.helpText env)
      else .failed (unexpectedArgument ("-" ++ String.ofList (firstFlag t)) "" c.usage)
    else if r.awaitingValue then c.readTokens env rest (r.withValue t)
    else .failed (unexpectedArgument t "" c.usage)

/-! ## Reading the whole line -/

/-- The output format named by a checked value. -/
def formatOf : Option String → OutputFormat
  | some "json" => .json
  | _ => .table

/-- The command a checked set of values stands for. -/
def CommandSpec.build (c : CommandSpec) (given : Given) (format : OutputFormat) : Option Invocation :=
  let snapshot := (firstValue given "snapshot").getD ""
  let command : Option Command :=
    match c.name with
    | "markets" => some (.markets snapshot)
    | "user" => some (.user snapshot)
    | "capacity" =>
      match (firstValue given "market").map Address.parse with
      | some (.ok market) =>
        some (.capacity snapshot market ((firstValue given "operation").bind OperationKind.parse?))
      | _ => none
    | "simulate" =>
      some (.simulate snapshot ((valuesOf given "op").filterMap fun v =>
        match OperationArg.parse v with
        | .ok op => some op
        | .error _ => none))
    | _ => none
  command.map (Invocation.mk format)

/-- The tip for an unknown program option that a command later on the line knows: of the
commands named in `rest`, the one named first. -/
def commandOptionTip (name : String) (rest : List String) : String :=
  let hits := commands.filterMap fun c =>
    match rest.idxOf? c.name, (didYouMean name (c.accepted.map (·.long) ++ ["help"])).getLast? with
    | some place, some o => some (place, c.name ++ " --" ++ o)
    | _, _ => none
  let first := hits.foldl (fun best h =>
    match best with
    | some b => if h.1 < b.1 then some h else some b
    | none => some h) none
  match first with
  | some (_, text) => tip ("'" ++ text ++ "' exists")
  | none => ""

/-- The failure for an unknown program option: the closest program option as a tip (counted as
used), else a command's option. -/
def unknownProgramLong (name : String) (rest : List String) (r : Reading) : String :=
  match (didYouMean name [formatOption.long, "help"]).getLast? with
  | some s =>
    unexpectedArgument ("--" ++ name) (tip ("a similar argument exists: '--" ++ s ++ "'"))
      (programUsageWith (r.use s).used)
  | none => unexpectedArgument ("--" ++ name) (commandOptionTip name rest) (programUsageWith r.used)

/-- The failure for a token where a command's name belongs. -/
def unknownCommand (t : String) : String :=
  "error: unrecognized subcommand '" ++ t ++ "'" ++ similarTip "subcommand" (didYouMean t commandNames) ++
    "\n\nUsage: " ++ programUsage ++ tryHelp

/-- What the `help` command prints for the names after it: each name must be a command of the
one before it. -/
def helpFor (env : Option String) : List String → Request
  | [] => .help programHelp
  | name :: more =>
    let unknown (n usage : String) : Request :=
      .usage (errorWithUsage ("unrecognized subcommand '" ++ n ++ "'") usage)
    if name = "help" then
      match more with
      | [] => .help helpCommandHelp
      | n :: _ => unknown n helpCommandUsage
    else
      match commands.find? (·.name = name) with
      | some c =>
        match more with
        | [] => .help (c.helpText env)
        | n :: _ => unknown n c.usage
      | none => unknown name programUsage

/-- The failure for a line with no command: the program's help when no option was given. -/
def missingCommand (anyGiven : Bool) : Request :=
  if anyGiven then
    .usage ("error: '" ++ programName ++ "' requires a subcommand but one was not provided\n" ++
      "  [subcommands: " ++ ", ".intercalate commandNames ++ "]\n\nUsage: " ++ programUsage ++ tryHelp)
  else .usage programHelp

/-- Runs a command once its level is read: the program's pending value is settled, and the
format given to the command wins over the program's. -/
def runCommand (c : CommandSpec) (env : Option String) (rest : List String) (r : Reading) : Request :=
  match c.readTokens env rest Reading.empty with
  | .help text => .help text
  | .failed m => .usage m
  | .finished sub =>
    match r.settle programUsage with
    | (_, some m) => .usage m
    | (r, none) =>
      let format := formatOf ((firstValue sub.given formatOption.long).orElse fun _ =>
        firstValue r.given formatOption.long)
      match c.build sub.given format with
      | some inv => .run inv
      | none => .usage (errorWithUsage "invalid arguments" c.usage)

/-- Prints the program's help once the pending option settles well. -/
def programHelpAfter (r : Reading) : Request :=
  match r.settle programUsage with
  | (_, some m) => .usage m
  | (_, none) => .help programHelp

/-- Reads the program's level: its options, help, and the command's name. -/
def readProgram (env : Option String) : List String → Reading → Request
  | [], r =>
    match r.settle programUsage with
    | (_, some m) => .usage m
    | (r, none) => missingCommand !r.used.isEmpty
  | t :: rest, r =>
    if t = "--" then
      match r.settle programUsage with
      | (_, some m) => .usage m
      | (r, none) =>
        match rest with
        | [] => missingCommand !r.used.isEmpty
        | u :: _ =>
          if commandNames.contains u then
            .usage (unexpectedArgument u (tip ("subcommand '" ++ u ++
              "' exists; to use it, remove the '--' before it")) programUsage)
          else .usage (unknownCommand u)
    else if !r.awaitingValue && commandNames.contains t then
      if t = "help" then helpFor env rest
      else
        match commands.find? (·.name = t) with
        | some c => runCommand c env rest r
        | none => .usage (unknownCommand t)
    else if t.startsWith "--" then
      let (name, inline) := splitLong t
      if name = "help" then
        match inline with
        | some v => .usage (unexpectedValue v (programUsageWith (r.used ++ ["help"])))
        | none => programHelpAfter r
      else if name = formatOption.long then
        match r.settle programUsage with
        | (_, some m) => .usage m
        | (r, none) =>
          match inline with
          | some v =>
            match r.accept formatOption v programUsage with
            | (_, some m) => .usage m
            | (r, none) => readProgram env rest r
          | none => readProgram env rest { r with pending := some (formatOption, none) }
      else .usage (unknownProgramLong name rest (r.settle programUsage).1)
    else if startsOption t then
      if firstFlag t = ['h'] then programHelpAfter r
      else .usage (unexpectedArgument ("-" ++ String.ofList (firstFlag t)) "" programUsage)
    else if r.awaitingValue then readProgram env rest (r.withValue t)
    else .usage (unknownCommand t)

/-- Reads a command line (without the program's name), given the value of the snapshot
environment variable when it is set. -/
def parse (args : List String) (env : Option String) : Request := readProgram env args Reading.empty

end Cli

end PeerLending
