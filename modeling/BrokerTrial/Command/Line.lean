import BrokerTrial.Command.Parameter

/-!
# Reading the command line

Arguments are read one after the other. A value is checked when the next parameter or switch comes, or
at the end; what cannot be read at all is refused at once.
-/

namespace BrokerTrial.Command

inductive Misuse where
  | nothingGiven
  | missingCommand
  | unknownCommand (arg : String)
  | unexpected (arg : String)
  | unexpectedValue (value switch : String)
  | missingValue (p : Parameter)
  | invalidValue (value : String) (p : Parameter) (reason : String)
  | repeated (what : String)
  | missingParameters (ps : List Parameter)
  deriving DecidableEq, Repr

namespace Misuse

def about : String := "CLI for running message broker delivery tests"

def text : Misuse → String
  | nothingGiven => about
  | missingCommand =>
    "error: 'mb-test-cli' requires a subcommand but one was not provided\n  [subcommands: " ++
      ", ".intercalate (Verb.all.map Verb.name) ++ ", help]"
  | unknownCommand arg => "error: unrecognized subcommand '" ++ arg ++ "'"
  | unexpected arg => "error: unexpected argument '" ++ arg ++ "' found"
  | unexpectedValue value switch =>
    "error: unexpected value '" ++ value ++ "' for '" ++ switch ++ "' found; no more were expected"
  | missingValue p => "error: a value is required for '" ++ p.text ++ "' but none was supplied"
  | invalidValue value p reason =>
    "error: invalid value '" ++ value ++ "' for '" ++ p.text ++ "': " ++ reason
  | repeated what => "error: the argument '" ++ what ++ "' cannot be used multiple times"
  | missingParameters ps =>
    "error: the following required arguments were not provided:" ++
      String.join (ps.map fun p => "\n  " ++ p.text)

end Misuse

/-- Why reading stops before there is anything to do. -/
inductive Stop where
  /-- Help is wanted, for one command or for all. -/
  | help (verb : Option Verb)
  | version
  | misuse (m : Misuse)
  deriving DecidableEq, Repr

inductive Argument where
  /-- Two dashes alone: what follows is no parameter. -/
  | divider
  | long (name : String) (value : Option String)
  /-- Switches of one letter each. -/
  | short (letters : List Char)
  | plain (text : String)
  deriving DecidableEq, Repr

namespace Argument

def ofText (s : String) : Argument :=
  match s.toList with
  | ['-', '-'] => divider
  | '-' :: '-' :: rest =>
    let name := rest.takeWhile (· != '=')
    match rest.drop name.length with
    | [] => long (String.ofList name) none
    | _ :: value => long (String.ofList name) (some (String.ofList value))
  | '-' :: c :: rest => short (c :: rest)
  | _ => plain s

end Argument

structure Line where
  /-- The values checked so far, by the name of their parameter. -/
  given : List (String × List String) := []
  /-- A parameter whose value is still to be checked, or to come. -/
  pending : Option (Parameter × Option String) := none
  verbose : Bool := false
  divided : Bool := false
  deriving DecidableEq, Repr

namespace Line

/-- The values of a parameter, if it was given. -/
def values? (l : Line) (name : String) : Option (List String) := l.given.lookup name

/-- The first value of a parameter. -/
def value? (l : Line) (name : String) : Option String := (l.values? name).bind List.head?

def checked (p : Parameter) (value : String) : Except Stop Unit :=
  match p.kind.check value with
  | .ok () => .ok ()
  | .error .missing => .error (.misuse (.missingValue p))
  | .error (.invalid reason) => .error (.misuse (.invalidValue value p reason))

def store (l : Line) (p : Parameter) (arg : String) : Except Stop Line := do
  let before := l.values? p.name
  if before.isSome && !p.many then throw (.misuse (.repeated p.text))
  let values := p.values arg
  values.forM (checked p)
  let others := l.given.filter (·.1 != p.name)
  return { l with given := others ++ [(p.name, before.getD [] ++ values)] }

def settle (l : Line) : Except Stop Line :=
  let settled := { l with pending := none }
  match l.pending with
  | none => .ok l
  | some (p, none) => .error (.misuse (.missingValue p))
  | some (p, some arg) => settled.store p arg

def switchVerbose (l : Line) : Except Stop Line := do
  let l ← l.settle
  if l.verbose then throw (.misuse (.repeated "--verbose"))
  return { l with verbose := true }

/-- Switches of one letter. `other` is what a letter beyond the common ones does. -/
def letters (verb : Option Verb) (other : Char → Option Stop) : List Char → Line → Except Stop Line
  | [], l => .ok l
  | c :: rest, l => do
    if c = 'v' then letters verb other rest (← l.switchVerbose)
    else if c = 'h' then do
      let _ ← l.settle
      throw (.help verb)
    else match other c with
      | some stop => do
        let _ ← l.settle
        throw stop
      | none => throw (.misuse (.unexpected ("-" ++ c.toString)))

def step (verb : Verb) (l : Line) (arg : String) : Except Stop Line :=
  if l.divided then .error (.misuse (.unexpected arg))
  else match Argument.ofText arg with
    | .divider => .ok { l with divided := true }
    | .short cs => letters (some verb) (fun _ => none) cs l
    | .long name value =>
      match verb.parameters.find? (·.name = name), value with
      | some p, some value => do
        let l ← l.settle
        l.store p value
      | some p, none => do
        let l ← l.settle
        return { l with pending := some (p, none) }
      | none, value =>
        if name = "verbose" ∨ name = "help" then
          match value with
          | some value => .error (.misuse (.unexpectedValue value ("--" ++ name)))
          | none => if name = "verbose" then l.switchVerbose else do
            let _ ← l.settle
            throw (.help (some verb))
        else .error (.misuse (.unexpected ("--" ++ name)))
    | .plain arg =>
      match l.pending with
      | some (p, none) => .ok { l with pending := some (p, some arg) }
      | _ => .error (.misuse (.unexpected arg))

/-- Read all arguments of a command. -/
def read (verb : Verb) (args : List String) : Except Stop Line := do
  let l ← args.foldlM (step verb) {}
  let l ← l.settle
  let missing := verb.parameters.filter fun p => p.required && (l.values? p.name).isNone
  if missing.isEmpty then return l else throw (.misuse (.missingParameters missing))

def help : List String → Stop
  | [] => .help none
  | arg :: rest =>
    match Verb.ofName? arg, rest with
    | some v, [] => .help (some v)
    | some _, next :: _ => .misuse (.unknownCommand next)
    | none, _ => if arg = "help" then help rest else .misuse (.unknownCommand arg)

def ofArgs : (args : List String) → (start : Line) → Except Stop (Verb × Line)
  | [], l => .error (.misuse (if l.verbose then .missingCommand else .nothingGiven))
  | arg :: rest, l =>
    let verb? := Verb.ofName? arg
    if l.divided then
      .error (.misuse (if verb?.isSome ∨ arg = "help" then .unexpected arg else .unknownCommand arg))
    else match verb? with
      | some verb => (read verb rest).map fun l => (verb, l)
      | none =>
        if arg = "help" then .error (help rest)
        else match Argument.ofText arg with
          | .divider => ofArgs rest { l with divided := true }
          | .short cs => do
            let l ← letters none (fun c => if c = 'V' then some .version else none) cs l
            ofArgs rest l
          | .long name value =>
            if name = "verbose" ∨ name = "help" ∨ name = "version" then
              match value with
              | some value => .error (.misuse (.unexpectedValue value ("--" ++ name)))
              | none =>
                if name = "help" then .error (.help none)
                else if name = "version" then .error .version
                else do
                  let l ← l.switchVerbose
                  ofArgs rest l
            else .error (.misuse (.unexpected ("--" ++ name)))
          | .plain arg => .error (.misuse (.unknownCommand arg))

end Line

end BrokerTrial.Command
