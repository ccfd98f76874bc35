import LivekitBridge.Text

/-!
# JSON values

What the payload parsers see: `nlohmann::json` values, the helpers of
`protocol/detail/json_fields.hpp`, and `ValidationError`.  The parser of the text itself
is nlohmann's; it is a parameter of the functions that start from bytes.

nlohmann keeps two kinds of integers apart, and `is_number_integer` holds of both.  What a
number that is not an integer is, nothing here reads.
-/

namespace LivekitBridge

def kCdrContentType : Str := lit "application/x-ros-cdr"

inductive Json
  | null
  | bool (value : Bool)
  /-- `number_integer` -/
  | signed (value : Int)
  /-- `number_unsigned` -/
  | unsigned (value : Nat)
  /-- `number_float` -/
  | float
  | string (text : Str)
  | array (items : List Json)
  | object (fields : List (Str × Json))

namespace Json

def isObject : Json → Bool
  | .object _ => true
  | _ => false

/-- `is_number_integer` -/
def isInteger : Json → Bool
  | .signed _ => true
  | .unsigned _ => true
  | _ => false

def isNull : Json → Bool
  | .null => true
  | _ => false

/-- `is_string`, with the text. -/
def text? : Json → Option Str
  | .string text => some text
  | _ => none

/-- `is_array`, with the items. -/
def items? : Json → Option (List Json)
  | .array items => some items
  | _ => none

/-- `find`, on a value of any kind. -/
def find (body : Json) (field : Str) : Option Json :=
  match body with
  | .object fields => (fields.find? fun entry => entry.1 == field).map Prod.snd
  | _ => none

end Json

structure ValidationError where
  field : Str
  reason : Str
deriving DecidableEq, Repr

/-- What the protocol code throws, by the classes that its handlers tell apart. -/
inductive StdException
  /-- `ValidationError`, which is a `std::invalid_argument` -/
  | validation (error : ValidationError)
  | invalidArgument (what : Str)
  | outOfRange (what : Str)
  | lengthError (what : Str)
  | runtimeError (what : Str)
deriving DecidableEq, Repr

namespace StdException

def what : StdException → Str
  | .validation error => error.reason
  | .invalidArgument what => what
  | .outOfRange what => what
  | .lengthError what => what
  | .runtimeError what => what

/-- `catch (const std::invalid_argument &)` takes it. -/
def isInvalidArgument : StdException → Bool
  | .validation _ => true
  | .invalidArgument _ => true
  | _ => false

end StdException

/-- `detail::parseObject`: `parseText` is `nlohmann::json::parse`, and none when it throws. -/
def parseObject (parseText : Str → Option Json) (payload invalidJson invalidObject : Str) :
    Except Str Json :=
  match parseText payload with
  | none => .error invalidJson
  | some body => if body.isObject then .ok body else .error invalidObject

def trimmedString (value : Json) (invalid : Str) (nullIsAbsent : Bool) : Except Str (Option Str) :=
  if nullIsAbsent && value.isNull then .ok none
  else
    match value.text? with
    | none => .error invalid
    | some text => if trim text = [] then .ok none else .ok (some (trim text))

def optionalString (body : Json) (field invalid : Str) (nullIsAbsent : Bool) :
    Except Str (Option Str) :=
  match body.find field with
  | none => .ok none
  | some value => trimmedString value invalid nullIsAbsent

end LivekitBridge
