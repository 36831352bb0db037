import StaticTables.Json.Parser
import StaticTables.Key.KeyType

/-!
How keys and their types are written in JSON. A type without parts is a name; an optional or a
paired type is an object with one member, named for the kind and holding the parts. Whole numbers of
up to 64 bits are numbers, wider ones decimal strings; a floating-point value is the string of its
bits in hexadecimal, so that every payload survives; an optional key is null or an object with the
one member `some`; a pair is an array of two.
-/
namespace StaticTables

/-- Whole numbers beyond this many bits are written as strings. -/
def IntKind.plainBits : Nat := 64

/-- The number as one of the range, if it lies in it. -/
def IntKind.ofInt? (k : IntKind) (n : Int) : Option { n : Int // k.Holds n } :=
  if h : k.Holds n then some ⟨n, h⟩ else none

/-- The value with these bits, if they fit the format. -/
def FloatBits.ofNat? (f : FloatFormat) (n : Nat) : Option (FloatBits f) :=
  if h : n < 2 * f.signBit then some ⟨n, h⟩ else none

/-- The bits in hexadecimal, with as many digits as the format has. -/
def FloatBits.hex {f : FloatFormat} (x : FloatBits f) : String :=
  String.ofList <| (List.range (f.width / 4)).map fun i =>
    Nat.digitChar (x.bits >>> (4 * (f.width / 4 - 1 - i)) % 16)

/-- Reads bits from hexadecimal digits, exactly as many as the format has. -/
def FloatBits.ofHex? (f : FloatFormat) (s : String) : Option (FloatBits f) := do
  let digits ← s.toList.mapM Json.hexDigit?
  if digits.length = f.width / 4 then
    FloatBits.ofNat? f (digits.foldl (fun n d => n * 16 + d) 0)
  else none

namespace KeyType

/-- The type that a literal stands for; `named` gives the types without parts by their names. -/
def ofJson? (named : String → Option KeyType) : Json → Option KeyType
  | .string s => s >>= named
  | .object [(some "option", inner)] => option <$> ofJson? named inner
  | .object [(some "pair", .array [first, second])] => do
    return pair (← ofJson? named first) (← ofJson? named second)
  | _ => none

/-- The value that a literal stands for. -/
def read : (t : KeyType) → Json → Option t.Value
  | int kind, v =>
    if kind.bits ≤ IntKind.plainBits then v.int? >>= kind.ofInt?
    else v.text? >>= String.toInt? >>= kind.ofInt?
  | rowId, v => v.nat? >>= RowId.ofIndex?
  | bool, v => v.bool?
  | char, v => do
    match (← v.text?).toList with
    | [c] => return c
    | _ => none
  | text, v => v.text?
  | float format, v => v.text? >>= FloatBits.ofHex? format
  | option key, v =>
    match v with
    | .null => some (none : Option key.Value)
    | v => do
      let inner ← key.read (← v.member? "some")
      return some inner
  | pair first second, v =>
    match v with
    | .array [a, b] => do
      let a ← first.read a
      let b ← second.read b
      return (a, b)
    | _ => none

/-- The literal for a value. -/
def write : (t : KeyType) → t.Value → Json
  | int kind, n =>
    if kind.bits ≤ IntKind.plainBits then .ofInt n.val else .text (toString n.val)
  | rowId, r => .ofNat (r : RowId).index
  | bool, b => .bool b
  | char, c => .text (Char.toString c)
  | text, s => .text s
  | float _, x => .text (FloatBits.hex x)
  | option key, v =>
    match (v : Option key.Value) with
    | none => .null
    | some inner => .ofMembers [("some", key.write inner)]
  | pair first second, v => .array [first.write (Prod.fst v), second.write (Prod.snd v)]

end KeyType

end StaticTables
