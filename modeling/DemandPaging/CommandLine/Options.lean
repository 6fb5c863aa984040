import DemandPaging.Number.Reading

/-!
# Command line options

Arguments are read from left to right. An argument that starts with a dash is
an option, unless it is the dash alone or two dashes stand before it as an
argument; all others are positional. An option takes its value from behind an
equals sign, from the rest of its cluster of letters, or from the next
argument, which must not be an option itself.
-/

namespace DemandPaging.CommandLine

/-- What a command line asks for. -/
structure Options where
  processes : Nat
  pages : Nat
  frames : Nat
  referenceCount : Option Nat
  seed : Option Nat
  illegalRate : Binary64
  timeoutMilliseconds : Option Nat
  reclaim : Bool
  notifyHits : Bool
  /-- File with reference strings. -/
  references : Option String
  /-- File for the outcomes. -/
  output : Option String
  verbosity : Nat
  deriving DecidableEq, Repr

/-- Why a command line is not carried out. -/
inductive Refusal where
  | usage (reason : String)
  | version
  | help
  deriving DecidableEq, Repr

/-- The options that are there or not. -/
inductive Switch where
  | reclaim
  | notifyHits
  | verbose
  | version
  | help
  deriving DecidableEq, Repr

/-- The options with a value. -/
inductive Parameter where
  | seed
  | illegalRate
  | timeout
  | references
  | output
  deriving DecidableEq, Repr

inductive OptionName where
  | switch (switch : Switch)
  | parameter (parameter : Parameter)
  deriving DecidableEq, Repr

def longOption? : String → Option OptionName
  | "reclaim" => some (.switch .reclaim)
  | "notify-hits" => some (.switch .notifyHits)
  | "verbose" => some (.switch .verbose)
  | "version" => some (.switch .version)
  | "help" => some (.switch .help)
  | "seed" => some (.parameter .seed)
  | "illegal-rate" => some (.parameter .illegalRate)
  | "timeout-ms" => some (.parameter .timeout)
  | "refs" => some (.parameter .references)
  | "output" => some (.parameter .output)
  | _ => none

def shortOption? : Char → Option OptionName
  | 'v' => some (.switch .verbose)
  | 'V' => some (.switch .version)
  | 'h' => some (.switch .help)
  | 'o' => some (.parameter .output)
  | _ => none

/-- The options read so far. -/
structure Draft where
  positionals : List Nat := []
  seed : Option Nat := none
  illegalRate : Option Binary64 := none
  timeoutMilliseconds : Option Nat := none
  reclaim : Bool := false
  notifyHits : Bool := false
  references : Option String := none
  output : Option String := none
  verbosity : Nat := 0

namespace Draft

def unsigned (name text : String) : Except Refusal Nat :=
  match Text.unsigned64? text.toList with
  | some number => .ok number
  | none => .error (.usage s!"invalid value '{text}' for '{name}'")

def path (name text : String) : Except Refusal String :=
  if text.isEmpty then .error (.usage s!"a value is required for '{name}'") else .ok text

/-- Refuses a second value. -/
def once {α : Type} (name : String) : Option α → Except Refusal Unit
  | none => .ok ()
  | some _ => .error (.usage s!"the argument '{name}' cannot be used multiple times")

/-- Takes the next positional argument; there are at most four. -/
def positional (draft : Draft) (text : String) : Except Refusal Draft := do
  match draft.positionals.length with
  | 0 => return { draft with positionals := [← unsigned "<PROCESSES>" text] }
  | 1 => return { draft with positionals := draft.positionals ++ [← unsigned "<PAGES>" text] }
  | 2 => return { draft with positionals := draft.positionals ++ [← unsigned "<FRAMES>" text] }
  | 3 => return { draft with positionals := draft.positionals ++ [← unsigned "[REF_LEN]" text] }
  | _ => throw (.usage s!"unexpected argument '{text}' found")

/-- Turns a switch on. Only the verbosity may be raised more than once. -/
def turnOn (draft : Draft) : Switch → Except Refusal Draft
  | .reclaim => do
    once "--reclaim" (if draft.reclaim then some () else none)
    return { draft with reclaim := true }
  | .notifyHits => do
    once "--notify-hits" (if draft.notifyHits then some () else none)
    return { draft with notifyHits := true }
  | .verbose => .ok { draft with verbosity := draft.verbosity + 1 }
  | .version => .error .version
  | .help => .error .help

/-- Gives a parameter its value. -/
def assign (draft : Draft) (text : String) : Parameter → Except Refusal Draft
  | .seed => do
    once "--seed" draft.seed
    return { draft with seed := some (← unsigned "--seed" text) }
  | .illegalRate => do
    once "--illegal-rate" draft.illegalRate
    match Binary64.ofText? text.toList with
    | some rate => return { draft with illegalRate := some rate }
    | none => throw (.usage s!"invalid value '{text}' for '--illegal-rate'")
  | .timeout => do
    once "--timeout-ms" draft.timeoutMilliseconds
    return { draft with timeoutMilliseconds := some (← unsigned "--timeout-ms" text) }
  | .references => do
    once "--refs" draft.references
    return { draft with references := some (← path "--refs" text) }
  | .output => do
    once "--output" draft.output
    return { draft with output := some (← path "--output" text) }

/-- The options, once all arguments are read. The number of references may be
left out only if they come from a file. -/
def complete (draft : Draft) : Except Refusal Options :=
  let options (processes pages frames : Nat) (referenceCount : Option Nat) : Options :=
    { processes, pages, frames, referenceCount
      seed := draft.seed
      illegalRate := draft.illegalRate.getD .zero
      timeoutMilliseconds := draft.timeoutMilliseconds
      reclaim := draft.reclaim
      notifyHits := draft.notifyHits
      references := draft.references
      output := draft.output
      verbosity := draft.verbosity }
  match draft.positionals with
  | [processes, pages, frames, count] => .ok (options processes pages frames (some count))
  | [processes, pages, frames] =>
    if draft.references.isSome then .ok (options processes pages frames none)
    else .error (.usage "the required argument [REF_LEN] was not provided")
  | _ => .error (.usage "the arguments <PROCESSES> <PAGES> <FRAMES> are required")

end Draft

/-- How an argument looks. -/
inductive Shape where
  /-- Two dashes alone: no options after this. -/
  | endOfOptions
  /-- Two dashes, a name, and perhaps an equals sign with a value. -/
  | long (name : String) (value : Option String)
  /-- A dash and letters. -/
  | short (letters : List Char)
  | plain

/-- The shape of an argument. A dash alone is plain. -/
def Shape.of (argument : String) : Shape :=
  match argument.toList with
  | ['-', '-'] => .endOfOptions
  | '-' :: '-' :: text =>
    let (name, value) := Binary64.cutAt (· = '=') text
    .long (String.ofList name) (value.map String.ofList)
  | ['-'] => .plain
  | '-' :: letters => .short letters
  | _ => .plain

/-- Reads a cluster of one-letter options. If the last one still lacks its value,
it comes with the answer. -/
def readLetters (draft : Draft) : List Char → Except Refusal (Draft × Option Parameter)
  | [] => .ok (draft, none)
  | letter :: letters =>
    match shortOption? letter with
    | none => .error (.usage s!"unexpected argument '-{letter}' found")
    | some (.switch switch) => do readLetters (← draft.turnOn switch) letters
    | some (.parameter parameter) =>
      match letters with
      | [] => .ok (draft, some parameter)
      | '=' :: value => do return (← draft.assign (String.ofList value) parameter, none)
      | value => do return (← draft.assign (String.ofList value) parameter, none)

/-- Reads one option. If it still lacks its value, it comes with the answer. -/
def readOption (draft : Draft) : Shape → Except Refusal (Draft × Option Parameter)
  | .long name value =>
    match longOption? name, value with
    | none, _ => .error (.usage s!"unexpected argument '--{name}' found")
    | some (.switch _), some _ => .error (.usage s!"'--{name}' takes no value")
    | some (.switch switch), none => do return (← draft.turnOn switch, none)
    | some (.parameter parameter), some value => do return (← draft.assign value parameter, none)
    | some (.parameter parameter), none => .ok (draft, some parameter)
  | .short letters => readLetters draft letters
  | .endOfOptions | .plain => .ok (draft, none)

/-- Reads all arguments, the rest of them as positional ones after two dashes. -/
def readArguments (draft : Draft) : List String → Except Refusal Draft
  | [] => .ok draft
  | argument :: rest =>
    match Shape.of argument with
    | .endOfOptions => rest.foldlM Draft.positional draft
    | .plain => do readArguments (← draft.positional argument) rest
    | shape => do
      match ← readOption draft shape with
      | (draft, none) => readArguments draft rest
      | (draft, some parameter) =>
        match rest with
        | [] => throw (.usage "a value is required")
        | value :: rest =>
          match Shape.of value with
          | .plain => readArguments (← draft.assign value parameter) rest
          | _ => throw (.usage "a value is required")

/-- The options of a command line, without the name of the program. -/
def Options.ofArguments (arguments : List String) : Except Refusal Options := do
  (← readArguments {} arguments).complete

end DemandPaging.CommandLine
