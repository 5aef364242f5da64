import FlowNet.Cli.Flag

/-!
# Invocations

The words of a command line are read from left to right. A flag stands once in front of the command and
once after it at most, and what is said after the command counts. Asking for help or for the version ends
the reading.
-/

namespace FlowNet.Cli

inductive Command where
  | analyse (file : String) (asJson : Bool)
  | run (file : String) (instanceId : Option String) (watch : Bool)
  | inject (file instanceId place : String)
  | instances (status : Option Instance.Status)
  | demo
deriving DecidableEq

namespace Command

def file? : Command → Option String
  | analyse file _ | run file _ _ | inject file _ _ => some file
  | instances _ | demo => none

def watches : Command → Bool
  | run _ _ watch => watch
  | _ => false

end Command

structure Invocation where
  config : Option String
  maxStates : Option Nat
  maxTicks : Option Nat
  command : Command
deriving DecidableEq

inductive Topic where
  | program
  | verb (v : Verb)
  | help
deriving DecidableEq

inductive Ending where
  | help (topic : Topic)
  | version
  /-- The words make no sense. -/
  | misuse
deriving DecidableEq

/-! ## Words -/

inductive Shape where
  | plain
  /-- After two dashes alone all words are plain. -/
  | separator
  | long (name : String) (operand : Option String)
  | letters (cs : List Char)

def Shape.of (word : String) : Shape :=
  match word.toList with
  | ['-', '-'] => separator
  | '-' :: '-' :: rest =>
    let tail := rest.dropWhile (· ≠ '=')
    long (String.ofList (rest.takeWhile (· ≠ '='))) (if tail.isEmpty then none else some (String.ofList tail.tail))
  | '-' :: c :: rest => letters (c :: rest)
  | _ => plain

structure Reading where
  given : List (Flag × String)
  /-- The last flag, if its operand is still to come or to be judged. -/
  pending : Option (Flag × Option String)
  file : Option String
  /-- All words are plain from here on. -/
  isPlain : Bool

namespace Reading

def empty : Reading := ⟨[], none, none, false⟩

def give (r : Reading) (f : Flag) (operand : String) : Except Ending Reading :=
  if r.given.any (·.1 == f) || !f.operand.admits operand then .error .misuse
  else .ok { r with given := (f, operand) :: r.given }

/-- Judges the operand that was put off. -/
def settle (r : Reading) : Except Ending Reading :=
  match r.pending with
  | none => .ok r
  | some (_, none) => .error .misuse
  | some (f, some operand) => { r with pending := none }.give f operand

/-- The next word is an operand, whatever it says. -/
def wantsOperand (r : Reading) : Bool :=
  match r.pending with
  | some (_, none) => true
  | _ => false

def topicOf : Option Verb → Topic
  | some v => .verb v
  | none => .program

def raise (verb : Option Verb) (f : Flag) (r : Reading) : Except Ending Reading := do
  let r ← r.settle
  match f with
  | .help => .error (.help (topicOf verb))
  | .version => .error .version
  | f => r.give f ""

def letters (verb : Option Verb) : List Char → Reading → Except Ending Reading
  | [], r => .ok r
  | c :: rest, r =>
    match (Flag.allowed verb).find? (·.letter? == some c) with
    | some f => do letters verb rest (← r.raise verb f)
    | none => .error .misuse

def long (verb : Option Verb) (name : String) (operand : Option String) (r : Reading) : Except Ending Reading :=
  match (Flag.allowed verb).find? (·.name == name) with
  | none => .error .misuse
  | some f =>
    match f.operand, operand with
    | .nothing, none => r.raise verb f
    | .nothing, some _ => .error .misuse
    | _, some operand => do (← r.settle).give f operand
    | _, none => do return { ← r.settle with pending := some (f, none) }

def positional (verb : Option Verb) (word : String) (r : Reading) : Except Ending Reading := do
  let r ← r.settle
  if verb.any (·.takesFile) && r.file.isNone && Operand.path.admits word then .ok { r with file := some word }
  else .error .misuse

def next (verb : Option Verb) (r : Reading) (word : String) : Except Ending Reading :=
  if r.isPlain then r.positional verb word
  else
    match Shape.of word, r.pending with
    | .separator, _ => if r.wantsOperand then .error .misuse else .ok { r with isPlain := true }
    | .long name operand, _ => r.long verb name operand
    | .letters cs, _ => letters verb cs r
    | .plain, some (f, none) => .ok { r with pending := some (f, some word) }
    | .plain, _ => r.positional verb word

def operand? (r : Reading) (f : Flag) : Option String := (r.given.find? (·.1 == f)).map (·.2)

def has (r : Reading) (f : Flag) : Bool := (r.operand? f).isSome

end Reading

/-! ## Command lines -/

def Command.ofReading? (v : Verb) (r : Reading) : Option Command :=
  match v, r.file with
  | .analyse, some file => some (.analyse file (r.has .json))
  | .run, some file => some (.run file (r.operand? .instanceId) (r.has .watch))
  | .inject, some file => do return .inject file (← r.operand? .instanceId) (← r.operand? .place)
  | .instances, _ => some (.instances ((r.operand? .status).bind Instance.Status.ofText?))
  | .demo, _ => some .demo
  | _, none => none

def Ending.ofHelp : List String → Ending
  | [] => help .program
  | [word] =>
    if word = "help" then help .help
    else
      match Verb.ofName? word with
      | some v => help (.verb v)
      | none => misuse
  | _ => misuse

namespace Invocation

/-- Reads the words after the command. The last flag in front of it is judged only then. -/
def ofCommand (v : Verb) (front : Reading) (words : List String) : Except Ending Invocation := do
  let own ← (← words.foldlM (Reading.next (some v)) Reading.empty).settle
  match Command.ofReading? v own with
  | none => .error .misuse
  | some command =>
    let front ← front.settle
    let operand? (f : Flag) := (own.operand? f).or (front.operand? f)
    return ⟨operand? .config, (operand? .maxStates).bind countOf?, (operand? .maxTicks).bind countOf?, command⟩

def ofFront (front : Reading) : List String → Except Ending Invocation
  | [] => .error .misuse
  | word :: rest =>
    if front.wantsOperand || front.isPlain then do ofFront (← front.next none word) rest
    else if word = "help" then .error (.ofHelp rest)
    else
      match Verb.ofName? word with
      | some v => ofCommand v front rest
      | none => do ofFront (← front.next none word) rest

def ofWords (words : List String) : Except Ending Invocation := ofFront .empty words

end Invocation

end FlowNet.Cli
