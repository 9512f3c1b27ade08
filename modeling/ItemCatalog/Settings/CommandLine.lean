import ItemCatalog.Settings.Arguments

/-!
# The command line

How arguments are read from the words of a command line and then from the environment, which is
asked only for what the words leave open. An option that waits for its value is settled when the
next option that is known begins, so that an unknown word is reported before a bad value in front
of it.
-/

namespace ItemCatalog.CommandLine

/-- Why reading ended without arguments. -/
inductive Interruption
  | unknownWord
  /-- An option lacks its value, or a switch has one that is neither true nor false. -/
  | invalidValue
  /-- A value does not spell a number that fits. -/
  | badNumber
  /-- A switch was given a value. -/
  | needlessValue
  | repetition
  | help
  | version
deriving DecidableEq

/-- What has been read: the texts so far, and the last option that a word was written for, with its
value if that has been read. -/
structure Progress where
  given : Given := .empty
  pending : Option (Parameter × Option String) := none

/-- What a word may be. -/
inductive Word
  /-- Two dashes: everything after them stands for itself. -/
  | separator
  | long (name : String) (value : Option String)
  | shorts (letters : List Char)
  | plain (text : String)
deriving DecidableEq

/-- The part of a word before the first equals sign and the part after it. -/
def splitValue (cs : List Char) : String × Option String :=
  match cs.span (· != '=') with
  | (name, _ :: value) => (String.ofList name, some (String.ofList value))
  | (name, []) => (String.ofList name, none)

/-- What a word is. -/
def Word.ofString (s : String) : Word :=
  match s.toList with
  | ['-', '-'] => separator
  | '-' :: '-' :: cs => long (splitValue cs).1 (splitValue cs).2
  | ['-'] => plain s
  | '-' :: cs => shorts cs
  | _ => plain s

/-- Why a text cannot be the value of an option. -/
def refusal (p : Parameter) : Interruption :=
  match p.kind with
  | .switch => .invalidValue
  | _ => .badNumber

/-- Gives an option its text. -/
def put (given : Given) (p : Parameter) (s : String) : Except Interruption Given :=
  if (given.get? p).isSome then .error .repetition
  else if p.takes s then .ok (given.insert p s)
  else .error (refusal p)

/-- Settles the option that is pending. -/
def Progress.settle (progress : Progress) : Except Interruption Given :=
  match progress.pending with
  | none => .ok progress.given
  | some (_, none) => .error .invalidValue
  | some (p, some s) => put progress.given p s

/-- Settles what is pending and gives an option its text at once. -/
def Progress.put (progress : Progress) (p : Parameter) (s : String) :
    Except Interruption Progress :=
  match progress.settle with
  | .error e => .error e
  | .ok given =>
    match CommandLine.put given p s with
    | .error e => .error e
    | .ok given => .ok { given := given }

/-- Settles what is pending and ends for another reason. -/
def Progress.stop (progress : Progress) (reason : Interruption) :
    Except Interruption Progress :=
  match progress.settle with
  | .error e => .error e
  | .ok _ => .error reason

/-- Settles what is pending and waits for the value of an option. -/
def Progress.await (progress : Progress) (p : Parameter) : Except Interruption Progress :=
  match progress.settle with
  | .error e => .error e
  | .ok given => .ok { given := given, pending := some (p, none) }

/-- Reads an option that is written out. -/
def readLong (progress : Progress) (name : String) (value : Option String) :
    Except Interruption Progress :=
  match name, value with
  | "help", none => progress.stop .help
  | "help", some _ => .error .needlessValue
  | "version", none => progress.stop .version
  | "version", some _ => .error .needlessValue
  | _, _ =>
    match Parameter.ofName? name with
    | none => .error .unknownWord
    | some p =>
      match p.kind, value with
      | .switch, none => progress.put p "true"
      | .switch, some _ => .error .needlessValue
      | _, some s => progress.put p s
      | _, none => progress.await p

/-- Reads options of one letter each. -/
def readShorts (progress : Progress) : List Char → Except Interruption Progress
  | [] => .ok progress
  | 'u' :: rest =>
    match progress.put .uds "true" with
    | .error e => .error e
    | .ok progress => readShorts progress rest
  | 'h' :: _ => progress.stop .help
  | 'V' :: _ => progress.stop .version
  | _ :: _ => .error .unknownWord

/-- Reads a word that is no option: the value that is waited for, or nothing that is known. -/
def readPlain (progress : Progress) (s : String) : Except Interruption Progress :=
  match progress.pending with
  | some (p, none) => .ok { progress with pending := some (p, some s) }
  | _ => .error .unknownWord

/-- Reads a word; `isLast` says that none follows. -/
def readWord (progress : Progress) (isLast : Bool) : Word → Except Interruption Progress
  | .separator => if isLast then .ok progress else .error .unknownWord
  | .long name value => readLong progress name value
  | .shorts letters => readShorts progress letters
  | .plain text => readPlain progress text

/-- Reads the words of a command line. -/
def readWords (progress : Progress) : List String → Except Interruption Given
  | [] => progress.settle
  | s :: rest =>
    match readWord progress rest.isEmpty (Word.ofString s) with
    | .error e => .error e
    | .ok progress => readWords progress rest

/-- Asks the environment for options that have no text yet. -/
def fillFrom (environment : String → Option String) (given : Given) :
    List Parameter → Except Interruption Given
  | [] => .ok given
  | p :: rest =>
    match given.get? p, p.environmentName?.bind environment with
    | none, some s =>
      match put given p s with
      | .error e => .error e
      | .ok given => fillFrom environment given rest
    | _, _ => fillFrom environment given rest

/-- Reads arguments from the words of a command line and from the environment. -/
def read (environment : String → Option String) (words : List String) :
    Except Interruption Arguments :=
  match readWords {} words with
  | .error e => .error e
  | .ok given =>
    match fillFrom environment given Parameter.all with
    | .error e => .error e
    | .ok given => .ok (.ofGiven given)

end ItemCatalog.CommandLine
