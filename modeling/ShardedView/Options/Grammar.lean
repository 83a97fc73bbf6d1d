/-!
Command lines: options with a name of their own, and operands by their place.

A value stands behind an equals sign or in the next word. The value in the next
word is looked at only when something else follows, so that an unknown option
behind it is reported first.
-/

namespace ShardedView.Options

inductive UsageFault
  /-- Help was asked for. -/
  | help
  | unknownOption
  /-- An option has no value, or none that is allowed. -/
  | invalidValue
  /-- A value cannot be read. -/
  | unreadableValue
  | unexpectedValue
  | repeatedOption
  | missingOption
  | unknownCommand
  | missingCommand
  deriving DecidableEq, Repr

inductive OptionKind
  /-- At most once, without a value. -/
  | flag
  /-- At most once. -/
  | single
  /-- Any number of times, each with values between commas. -/
  | list
  deriving DecidableEq, Repr

structure OptionRule where
  name : String
  kind : OptionKind
  fault? : String → Option UsageFault

/-- The options of a program, and how the words behind a command are read. -/
structure Grammar (κ : Type) where
  options : List OptionRule
  command? : String → Option (List String → Except UsageFault κ)

/-- The values of the options in their order, the operands and the command. -/
structure Arguments (κ : Type) where
  values : List (String × String)
  operands : List String
  command : Option κ

/-- What has been read: an option may still wait for its value, or have one that
was not yet looked at. -/
structure Reading where
  values : List (String × String)
  operands : List String
  pending : Option (OptionRule × Option String)

namespace Arguments

variable {κ : Type}

def all (arguments : Arguments κ) (name : String) : List String :=
  (arguments.values.filter (·.1 = name)).map (·.2)

def value? (arguments : Arguments κ) (name : String) : Option String :=
  (arguments.all name).head?

def has (arguments : Arguments κ) (name : String) : Bool :=
  arguments.values.any (·.1 = name)

end Arguments

/-- Adds an option with its values, if it may be given again and they are
allowed. -/
def OptionRule.add (rule : OptionRule) (text : String) (values : List (String × String)) :
    Except UsageFault (List (String × String)) :=
  if rule.kind ≠ .list && values.any (·.1 = rule.name) then .error .repeatedOption
  else
    let texts := if rule.kind = .list then text.splitOn "," else [text]
    match texts.findSome? rule.fault? with
    | some fault => .error fault
    | none => .ok (values ++ texts.map fun text => (rule.name, text))

namespace Reading

def start : Reading := ⟨[], [], none⟩

def settle (reading : Reading) : Except UsageFault Reading :=
  match reading.pending with
  | none => .ok reading
  | some (_, none) => .error .invalidValue
  | some (rule, some text) => do
    return { reading with values := ← rule.add text reading.values, pending := none }

def isWaiting (reading : Reading) : Bool :=
  match reading.pending with
  | some (_, none) => true
  | _ => false

def addOption (reading : Reading) (rule : OptionRule) (text : Option String) :
    Except UsageFault Reading :=
  match rule.kind, text with
  | .flag, some _ => .error .unexpectedValue
  | .flag, none => do
    let reading ← reading.settle
    return { reading with values := ← rule.add "" reading.values }
  | _, some text => do
    let reading ← reading.settle
    return { reading with values := ← rule.add text reading.values }
  | _, none => do
    return { ← reading.settle with pending := some (rule, none) }

def addOperand (reading : Reading) (room : Option Nat) (word : String) :
    Except UsageFault Reading :=
  if room.any (· ≤ reading.operands.length) then .error .unknownOption
  else do
    let reading ← reading.settle
    return { reading with operands := reading.operands ++ [word] }

/-- Takes in a word that is no option: the value of the last option, or an
operand. -/
def addWord (reading : Reading) (room : Option Nat) (word : String) :
    Except UsageFault Reading :=
  match reading.pending with
  | some (rule, none) => .ok { reading with pending := some (rule, some word) }
  | _ => reading.addOperand room word

def finish {κ : Type} (reading : Reading) (command : Option κ) :
    Except UsageFault (Arguments κ) := do
  let reading ← reading.settle
  return ⟨reading.values, reading.operands, command⟩

end Reading

def splitOption? (word : String) : Option (String × Option String) :=
  match word.toList with
  | '-' :: '-' :: rest =>
    let name := String.ofList (rest.takeWhile (· ≠ '='))
    match rest.dropWhile (· ≠ '=') with
    | [] => some (name, none)
    | _ :: value => some (name, some (String.ofList value))
  | _ => none

def shortOption? (word : String) : Option (List Char) :=
  match word.toList with
  | '-' :: letter :: rest => some (letter :: rest)
  | _ => none

namespace Grammar

variable {κ : Type}

/-- Takes in words up to the end or a command, which takes all that follow. The room
is how many operands there may be. -/
def read (grammar : Grammar κ) (room : Option Nat) (reading : Reading) :
    List String → Except UsageFault (Arguments κ)
  | [] => reading.finish none
  | word :: rest =>
    match if reading.isWaiting then none else grammar.command? word with
    | some readCommand => do reading.finish (some (← readCommand rest))
    | none =>
      if word = "--" then
        (rest.foldlM (Reading.addOperand · room ·) reading).bind (·.finish none)
      else
        match splitOption? word, shortOption? word with
        | some (name, text), _ =>
          if name = "help" then
            if text.isSome then .error .unexpectedValue
            else reading.settle.bind fun _ => .error .help
          else
            match grammar.options.find? (·.name = name) with
            | none => .error .unknownOption
            | some rule => do grammar.read room (← reading.addOption rule text) rest
        | none, some letters =>
          if letters.head? = some 'h' then reading.settle.bind fun _ => .error .help
          else .error .unknownOption
        | none, none => do grammar.read room (← reading.addWord room word) rest

def parse (grammar : Grammar κ) (room : Option Nat) (words : List String) :
    Except UsageFault (Arguments κ) :=
  grammar.read room .start words

end Grammar

def faultUnless {α : Type} (read? : String → Option α) (fault : UsageFault) (text : String) :
    Option UsageFault :=
  if (read? text).isSome then none else some fault

end ShardedView.Options
