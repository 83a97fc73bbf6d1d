import ShardedView.Net.Address
import ShardedView.Number.Integer
import ShardedView.Options.Grammar
import ShardedView.Topic.Basic

/-!
The values of options: numbers, addresses, paths and names.
-/

namespace ShardedView.Options

/-- A number below `size`, which is at most that of 32 bits. A sign is allowed, so
that zero has several forms. -/
def small? (size : Nat) (text : String) : Option Nat := do
  let number := (← (Integer.read64 text).toOption).toInt
  if 0 ≤ number ∧ number < size then some number.toNat else none

def large? (text : String) : Option Nat :=
  (Integer.readUnsigned UInt64.size text.toList).toOption

def path? (text : String) : Option String :=
  if text.isEmpty then none else some text

def readable {α : Type} (name : String) (kind : OptionKind) (read? : String → Option α) :
    OptionRule :=
  ⟨name, kind, faultUnless read? .unreadableValue⟩

def choice {α : Type} (name : String) (read? : String → Option α) : OptionRule :=
  ⟨name, .single, faultUnless read? .invalidValue⟩

def text (name : String) : OptionRule :=
  ⟨name, .single, fun _ => none⟩

def path (name : String) : OptionRule :=
  ⟨name, .single, faultUnless path? .invalidValue⟩

def flag (name : String) : OptionRule :=
  ⟨name, .flag, fun _ => none⟩

namespace Arguments

variable {κ : Type}

def read? {α : Type} (arguments : Arguments κ) (name : String) (read? : String → Option α) :
    Option α :=
  (arguments.value? name).bind read?

def readAll {α : Type} (arguments : Arguments κ) (name : String) (read? : String → Option α) :
    List α :=
  (arguments.all name).filterMap read?

def required (arguments : Arguments κ) (name : String) : Except UsageFault String :=
  match arguments.value? name with
  | some text => .ok text
  | none => .error .missingOption

end Arguments

end ShardedView.Options
