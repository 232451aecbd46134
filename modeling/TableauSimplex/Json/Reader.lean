import TableauSimplex.Json.Basic

/-!
# Reading documents

The reader works on the characters that remain.  Every value takes at least one of them, so the
number of characters bounds the depth of the recursion.
-/

set_option autoImplicit false

namespace TableauSimplex.Json

/-- The blanks of the format. -/
def isGap (c : Char) : Bool :=
  c == ' ' || c == '\t' || c == '\n' || c == '\r'

def skipGap (input : List Char) : List Char :=
  input.dropWhile isGap

def hexDigit? (c : Char) : Option Nat :=
  if '0' ≤ c ∧ c ≤ '9' then some (c.toNat - '0'.toNat)
  else if 'a' ≤ c ∧ c ≤ 'f' then some (c.toNat - 'a'.toNat + 10)
  else if 'A' ≤ c ∧ c ≤ 'F' then some (c.toNat - 'A'.toNat + 10)
  else none

/-- A UTF-16 unit from its four hexadecimal digits. -/
def unit? (a b c d : Char) : Option Nat := do
  return ((← hexDigit? a) * 16 + (← hexDigit? b)) * 256 + (← hexDigit? c) * 16 + (← hexDigit? d)

/-- The character of one unit.  Half of a surrogate pair has none and becomes the replacement
character. -/
def ofUnit (unit : Nat) : Char :=
  if 0xd800 ≤ unit ∧ unit < 0xe000 then Char.ofNat 0xfffd else Char.ofNat unit

/-- The characters up to the closing quote, and what follows it. -/
def textBody? (input read : List Char) : Option (String × List Char) :=
  match input with
  | [] => none
  | '"' :: rest => some (String.ofList read.reverse, rest)
  | '\\' :: 'u' :: a :: b :: c :: d :: '\\' :: 'u' :: e :: f :: g :: h :: rest =>
      match unit? a b c d, unit? e f g h with
      | some first, some second =>
          if 0xd800 ≤ first ∧ first < 0xdc00 ∧ 0xdc00 ≤ second ∧ second < 0xe000 then
            let point := 0x10000 + (first - 0xd800) * 0x400 + (second - 0xdc00)
            textBody? rest (Char.ofNat point :: read)
          else textBody? ('\\' :: 'u' :: e :: f :: g :: h :: rest) (ofUnit first :: read)
      | _, _ => none
  | '\\' :: 'u' :: a :: b :: c :: d :: rest =>
      match unit? a b c d with
      | some unit => textBody? rest (ofUnit unit :: read)
      | none => none
  | '\\' :: 'n' :: rest => textBody? rest ('\n' :: read)
  | '\\' :: 't' :: rest => textBody? rest ('\t' :: read)
  | '\\' :: 'r' :: rest => textBody? rest ('\r' :: read)
  | '\\' :: 'b' :: rest => textBody? rest ('\x08' :: read)
  | '\\' :: 'f' :: rest => textBody? rest ('\x0c' :: read)
  | '\\' :: c :: rest =>
      if c = '"' ∨ c = '\\' ∨ c = '/' then textBody? rest (c :: read) else none
  | c :: rest => textBody? rest (c :: read)
termination_by input.length

def isNumberChar (c : Char) : Bool :=
  c.isDigit || c == '-' || c == '+' || c == '.' || c == 'e' || c == 'E'

/-- A whole number, or a number with a point or an exponent. -/
def number? (text : List Char) : Option Json :=
  let whole := text.all fun c => c.isDigit || c == '-'
  match text with
  | '+' :: _ => none
  | _ =>
      match Numeral.read? Numeral.asciiDigit? (fun _ => false) text with
      | some (.decimal value) =>
          if whole then
            let size : Int := value.digits
            some (.integer (if value.negative then -size else size))
          else some (.real (.decimal value))
      | _ => none

def afterWord? : List Char → List Char → Option (List Char)
  | [], input => some input
  | _ :: _, [] => none
  | expected :: more, c :: rest => if expected = c then afterWord? more rest else none

mutual

/-- One value at the front of the input, and the rest. -/
def value? (fuel : Nat) (input : List Char) : Option (Json × List Char) :=
  match fuel with
  | 0 => none
  | fuel + 1 =>
      match skipGap input with
      | [] => none
      | '"' :: rest => (textBody? rest []).map fun (content, after) => (.text content, after)
      | '[' :: rest =>
          match skipGap rest with
          | ']' :: after => some (.list [], after)
          | _ => (items? fuel rest).map fun (items, after) => (.list items, after)
      | '\x7b' :: rest =>
          match skipGap rest with
          | '\x7d' :: after => some (.object [], after)
          | _ => (fields? fuel rest).map fun (fields, after) => (.object fields, after)
      | 'n' :: rest => (afterWord? "ull".toList rest).map fun after => (.null, after)
      | 't' :: rest => (afterWord? "rue".toList rest).map fun after => (.boolean true, after)
      | 'f' :: rest => (afterWord? "alse".toList rest).map fun after => (.boolean false, after)
      | 'N' :: rest => (afterWord? "aN".toList rest).map fun after => (.real .notANumber, after)
      | 'I' :: rest =>
          (afterWord? "nfinity".toList rest).map fun after => (.real (.infinite false), after)
      | '-' :: 'I' :: rest =>
          (afterWord? "nfinity".toList rest).map fun after => (.real (.infinite true), after)
      | other =>
          (number? (other.takeWhile isNumberChar)).map fun value =>
            (value, other.dropWhile isNumberChar)

def items? (fuel : Nat) (input : List Char) : Option (List Json × List Char) :=
  match fuel with
  | 0 => none
  | fuel + 1 =>
      match value? fuel input with
      | none => none
      | some (item, after) =>
          match skipGap after with
          | ',' :: rest => (items? fuel rest).map fun (items, after) => (item :: items, after)
          | ']' :: rest => some ([item], rest)
          | _ => none

def fields? (fuel : Nat) (input : List Char) : Option (List (String × Json) × List Char) :=
  match fuel with
  | 0 => none
  | fuel + 1 =>
      match skipGap input with
      | '"' :: rest =>
          match textBody? rest [] with
          | none => none
          | some (name, afterName) =>
              match skipGap afterName with
              | ':' :: afterColon =>
                  match value? fuel afterColon with
                  | none => none
                  | some (value, after) =>
                      match skipGap after with
                      | ',' :: rest =>
                          (fields? fuel rest).map fun (fields, after) =>
                            ((name, value) :: fields, after)
                      | '\x7d' :: rest => some ([(name, value)], rest)
                      | _ => none
              | _ => none
      | _ => none

end

def parse? (text : String) : Option Json :=
  let input := text.toList
  match value? (2 * input.length + 2) input with
  | some (document, rest) => if (skipGap rest).isEmpty then some document else none
  | none => none

end TableauSimplex.Json
