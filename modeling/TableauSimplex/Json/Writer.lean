import TableauSimplex.Json.Basic
import TableauSimplex.Text.Quoted

/-!
# Writing documents

A document is written on one line in ASCII.  Characters outside ASCII are written as escapes of
their UTF-16 units.
-/

set_option autoImplicit false

namespace TableauSimplex.Json

/-- Positional up to sixteen digits before the point, and never without a fraction. -/
def decimalLayout : DecimalLayout :=
  { positionalBelow := 16, keepsFraction := true }

def numeralText : Numeral → String
  | .decimal value => decimalLayout.write value
  | .infinite negative => if negative then "-Infinity" else "Infinity"
  | .notANumber => "NaN"

def unitChars (unit : Nat) : List Char :=
  '\\' :: 'u' :: Text.hexChars 4 unit

def writtenChar (c : Char) : List Char :=
  if c = '"' ∨ c = '\\' then ['\\', c]
  else if c = '\n' then ['\\', 'n']
  else if c = '\t' then ['\\', 't']
  else if c = '\r' then ['\\', 'r']
  else if 0x20 ≤ c.toNat ∧ c.toNat < 0x7f then [c]
  else if c.toNat < 0x10000 then unitChars c.toNat
  else
    let offset := c.toNat - 0x10000
    unitChars (0xd800 + offset / 0x400) ++ unitChars (0xdc00 + offset % 0x400)

def writtenText (text : String) : String :=
  String.ofList ('"' :: (text.toList.flatMap writtenChar ++ ['"']))

mutual

def write : Json → String
  | .null => "null"
  | .boolean true => "true"
  | .boolean false => "false"
  | .integer value => toString value
  | .real value => numeralText value
  | .text value => writtenText value
  | .list items => "[" ++ String.intercalate ", " (writeItems items) ++ "]"
  | .object fields => "\x7b" ++ String.intercalate ", " (writeFields fields) ++ "\x7d"

def writeItems : List Json → List String
  | [] => []
  | item :: rest => write item :: writeItems rest

def writeFields : List (String × Json) → List String
  | [] => []
  | (name, value) :: rest => (writtenText name ++ ": " ++ write value) :: writeFields rest

end

end TableauSimplex.Json
