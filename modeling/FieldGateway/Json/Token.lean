import FieldGateway.Json.Number

/-!
# The words of a JSON text

A JSON text is cut into brackets, commas, colons, strings and other words in one pass over its
bytes. A string follows the grammar when its escapes are complete and it holds no control character;
it has a text when its surrogates come in pairs and its bytes are UTF-8.
-/

namespace FieldGateway.Json

/-- A word of a JSON text. -/
inductive Token where
  | openArray
  | closeArray
  | openObject
  | closeObject
  | comma
  | colon
  /-- A string, with its text if it has one. -/
  | text (s : Option String)
  /-- A number or a literal name. -/
  | scalar (v : Json)
deriving Inhabited, Repr

/-- A part of a string: a byte of the text, or a code unit that was written by number. -/
inductive Piece where
  | byte (b : UInt8)
  /-- A code unit of 16 bits. -/
  | unit (n : Nat)
deriving Inhabited, Repr

def utf8Bytes (n : Nat) : List UInt8 := (String.singleton (Char.ofNat n)).toUTF8.toList

/-- The bytes of a string's parts; `none` if a surrogate stands alone. -/
def bytes? : List Piece → Option (List UInt8)
  | [] => some []
  | .byte b :: r => (b :: ·) <$> bytes? r
  | .unit n :: r =>
    if n < 0xd800 || 0xdfff < n then (utf8Bytes n ++ ·) <$> bytes? r
    else match r with
      | .unit m :: t =>
        if n < 0xdc00 && 0xdc00 ≤ m && m ≤ 0xdfff then
          (utf8Bytes (0x10000 + (n - 0xd800) * 0x400 + (m - 0xdc00)) ++ ·) <$> bytes? t
        else none
      | _ => none

/-- The text of a string's parts, if it has one. -/
def text? (pieces : List Piece) : Option String := do
  let bs ← bytes? pieces
  String.fromUTF8? ⟨bs.toArray⟩

def hexDigit? (b : UInt8) : Option Nat :=
  if 0x30 ≤ b && b ≤ 0x39 then some (b.toNat - 0x30)
  else if 0x61 ≤ b && b ≤ 0x66 then some (b.toNat - 0x61 + 10)
  else if 0x41 ≤ b && b ≤ 0x46 then some (b.toNat - 0x41 + 10)
  else none

/-- The byte that a letter after a backslash stands for. -/
def escaped? (b : UInt8) : Option UInt8 :=
  if b == 0x22 || b == 0x5c || b == 0x2f then some b
  else if b == 0x62 then some 0x08
  else if b == 0x66 then some 0x0c
  else if b == 0x6e then some 0x0a
  else if b == 0x72 then some 0x0d
  else if b == 0x74 then some 0x09
  else none

/-- The bracket, comma or colon that a byte is. -/
def mark? (b : UInt8) : Option Token :=
  if b == 0x5b then some .openArray
  else if b == 0x5d then some .closeArray
  else if b == 0x7b then some .openObject
  else if b == 0x7d then some .closeObject
  else if b == 0x2c then some .comma
  else if b == 0x3a then some .colon
  else none

/-- Holds of the four bytes that may stand between words. -/
def isSpace (b : UInt8) : Bool := b == 0x20 || b == 0x0a || b == 0x0d || b == 0x09

/-- A number or a literal name. -/
def word? (bytes : List UInt8) : Option Token :=
  if bytes == "null".toUTF8.toList then some (.scalar .null)
  else if bytes == "true".toUTF8.toList then some (.scalar (.bool true))
  else if bytes == "false".toUTF8.toList then some (.scalar (.bool false))
  else (literal? bytes).map fun l => .scalar l.value

/-- Where the pass over the bytes stands. Words and strings are kept last part first. -/
inductive Mode where
  | between
  /-- Inside a number or a literal name. -/
  | word (read : List UInt8)
  | text (read : List Piece)
  | escape (read : List Piece)
  /-- Inside a code unit that has `missing` digits to come. -/
  | unit (read : List Piece) (missing n : Nat)
deriving Inhabited

/-- The words found so far, last first, and the mode. -/
structure Scan where
  /-- The words found so far, last first. -/
  found : List Token
  mode : Mode
deriving Inhabited

namespace Scan

/-- Ends the word that is being read, if there is one. -/
def endWord? (s : Scan) : Option Scan :=
  match s.mode with
  | .between => some s
  | .word read => (word? read.reverse).map fun t => ⟨t :: s.found, .between⟩
  | _ => none

/-- The pass after a byte that stands outside of strings. -/
def plain? (s : Scan) (b : UInt8) : Option Scan :=
  if isSpace b then s.endWord?
  else if b == 0x22 then s.endWord?.map fun s => { s with mode := .text [] }
  else match mark? b with
    | some t => s.endWord?.map fun s => { s with found := t :: s.found }
    | none =>
      match s.mode with
      | .word read => some { s with mode := .word (b :: read) }
      | _ => some { s with mode := .word [b] }

/-- The pass after one more byte; `none` if the text leaves the grammar. -/
def step? (s : Scan) (b : UInt8) : Option Scan :=
  match s.mode with
  | .between | .word _ => s.plain? b
  | .text read =>
    if b == 0x22 then some ⟨.text (text? read.reverse) :: s.found, .between⟩
    else if b == 0x5c then some { s with mode := .escape read }
    else if b < 0x20 then none
    else some { s with mode := .text (.byte b :: read) }
  | .escape read =>
    if b == 0x75 then some { s with mode := .unit read 4 0 }
    else (escaped? b).map fun c => { s with mode := .text (.byte c :: read) }
  | .unit read missing n =>
    (hexDigit? b).map fun d =>
      let n := 16 * n + d
      if missing ≤ 1 then { s with mode := .text (.unit n :: read) }
      else { s with mode := .unit read (missing - 1) n }

end Scan

def tokens? (bytes : List UInt8) : Option (List Token) := do
  let s ← bytes.foldlM Scan.step? ⟨[], .between⟩
  let s ← s.endWord?
  return s.found.reverse

end FieldGateway.Json
