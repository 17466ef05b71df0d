import Mathdown.Text.Quote
import Mathdown.Toml.Value

namespace Mathdown.Toml

/-- Why a value is not what was wanted. -/
inductive DecodeError where
  | unknownField (name : String) (known : List String)
  | invalidType (found wanted : String)
  | invalidValue (found wanted : String)
  | overflow
deriving Repr, DecidableEq

def alternatives (names : List String) : String :=
  let quoted := names.map fun name => "`" ++ name ++ "`"
  match quoted with
  | [] => ""
  | [name] => name
  | [first, second] => first ++ " or " ++ second
  | _ => "one of " ++ ", ".intercalate quoted

def DecodeError.message : DecodeError → String
  | .unknownField name known => "unknown field `" ++ name ++ "`, expected " ++ alternatives known
  | .invalidType found wanted => "invalid type: " ++ found ++ ", expected " ++ wanted
  | .invalidValue found wanted => "invalid value: " ++ found ++ ", expected " ++ wanted
  | .overflow => "number overflowed"

def powerOfTwo (n : Nat) : Int := (1 <<< n : Nat)

/-- A whole number as messages show it, with its width if 64 bits are too few. -/
def describeInteger (n : Int) : String :=
  let text := "integer `" ++ toString n ++ "`"
  if n < -powerOfTwo 63 || powerOfTwo 127 ≤ n then text ++ (if n < 0 then " as i128" else " as u128")
  else if powerOfTwo 64 ≤ n then text ++ " as i128"
  else text

def fitsInteger (n : Int) : Bool := -powerOfTwo 127 ≤ n && n < powerOfTwo 128

def Value.mismatch (wanted : String) : Value → DecodeError
  | .string text => .invalidType ("string " ++ Text.quote text) wanted
  | .integer n => if fitsInteger n then .invalidType (describeInteger n) wanted else .overflow
  | .float number => .invalidType ("floating point `" ++ number.text ++ "`") wanted
  | .overflow => .overflow
  | .boolean b => .invalidType ("boolean `" ++ toString b ++ "`") wanted
  | .date _ => .invalidType "map" wanted
  | .array _ _ => .invalidType "sequence" wanted
  | .table _ _ => .invalidType "map" wanted

abbrev Decoder (α : Type) := Value → Except DecodeError α

namespace Decoder

def boolean : Decoder Bool
  | .boolean b => .ok b
  | v => .error (v.mismatch "a boolean")

def string : Decoder String
  | .string text => .ok text
  | v => .error (v.mismatch "a string")

def natural : Decoder Nat
  | .integer n =>
    if n < -powerOfTwo 63 || powerOfTwo 64 ≤ n then .error ((Value.integer n).mismatch "usize")
    else if n < 0 then .error (.invalidValue (describeInteger n) "usize")
    else .ok n.toNat
  | v => .error (v.mismatch "usize")

def list {α : Type} (item : Decoder α) : Decoder (List α)
  | .array _ items => items.mapM item
  | v => .error (v.mismatch "a sequence")

end Decoder

/-- A field of a record: its name, and how a value for it changes the record. -/
structure RecordField (σ : Type) where
  name : String
  assign : Value → σ → Except DecodeError σ

def RecordField.of {σ α : Type} (name : String) (decode : Decoder α) (store : α → σ → σ) :
    RecordField σ where
  name := name
  assign v s := (store · s) <$> decode v

def dateKey : String := "$__toml_private_datetime"

def assignMember {σ : Type} (fields : List (RecordField σ)) (s : σ) (member : String × Value) :
    Except DecodeError σ :=
  match fields.find? (·.name == member.1) with
  | some field => field.assign member.2 s
  | none => .error (.unknownField member.1 (fields.map (·.name)))

/-- Assigns items to fields in their order. Items beyond the last field go unread. -/
def assignItems {σ : Type} : (fields : List (RecordField σ)) → (items : List Value) → σ →
    Except DecodeError σ
  | field :: fields, item :: items, s => do assignItems fields items (← field.assign item s)
  | _, _, s => .ok s

/-- A record with its fields and what it is without a value for any of them. -/
def Decoder.record {σ : Type} (title : String) (fields : List (RecordField σ)) (default : σ) :
    Decoder σ
  | .table _ entries => entries.foldlM (assignMember fields) default
  | .array _ items => assignItems fields items default
  | .date _ => .error (.unknownField dateKey (fields.map (·.name)))
  | v => .error (v.mismatch ("struct " ++ title))

end Mathdown.Toml
