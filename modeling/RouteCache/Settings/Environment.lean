import RouteCache.Settings.Basic
import RouteCache.Text

/-!
Settings from the environment. A variable that is not set, or whose bytes are no
text, leaves its setting as it is. Any other text has to be a numeral between white
space, and the first variable with a text that is none decides the refusal.
-/

namespace RouteCache

/-- What the environment holds for one variable. -/
inductive Setting where
  | unset
  /-- Bytes that are not the encoding of a text. -/
  | unreadable
  | text (value : String)
deriving DecidableEq

/-- The setting that a sequence of bytes is. -/
def Setting.ofBytes (bytes : ByteArray) : Setting :=
  match String.fromUTF8? bytes with
  | some value => .text value
  | none => .unreadable

/-- An environment gives every variable a setting. -/
abbrev Environment := Variable → Setting

/-- The number that a variable is set to, or the number given for one that is not
set. Numbers have to be below the bound. -/
def Environment.number (environment : Environment) (name : Variable) (bound default : Nat) :
    Except Refusal Nat :=
  match environment name with
  | .unset | .unreadable => .ok default
  | .text value =>
    match Text.numeral? bound (Text.trim value.toList) with
    | some number => .ok number
    | none => .error (.malformed name value)

/-- A variable that holds a word of 64 bits. -/
def Environment.word (environment : Environment) (name : Variable) (default : UInt64) :
    Except Refusal UInt64 :=
  (environment.number name UInt64.size default.toNat).map UInt64.ofNat

/-- A variable that holds a word of 32 bits. -/
def Environment.halfWord (environment : Environment) (name : Variable) (default : UInt32) :
    Except Refusal UInt32 :=
  (environment.number name UInt32.size default.toNat).map UInt32.ofNat

def Settings.ofEnvironment (environment : Environment) : Except Refusal Settings := do
  let usual : Settings := {}
  let capacity ← environment.word .capacity usual.capacity
  let lifetime ← environment.word .lifetime usual.lifetime
  let width ← environment.halfWord .width usual.width
  let depth ← environment.halfWord .depth usual.depth
  let tickMillis ← environment.word .tickMillis usual.tickMillis
  let ticks ← environment.word .ticks usual.ticks
  return { capacity, lifetime, width, depth, tickMillis, ticks }

def Refusal.message : Refusal → String
  | .malformed name text => "Invalid value for " ++ name.name ++ ": " ++ Text.quoted text
  | .noCapacity => "Invalid configuration: capacity must be at least 1"
  | .emptyGrid width depth =>
    "Invalid configuration: grid dimensions must be non-zero, got " ++
      toString width ++ "x" ++ toString depth
  | .noInterval => "Invalid configuration: tick interval must be non-zero"

end RouteCache
