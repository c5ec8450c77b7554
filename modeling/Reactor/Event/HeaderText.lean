import Reactor.Event

/-!
# The text form of event headers

A header is written as a JSON object with the fields `signal` and `dynamic`.  Reading accepts these
fields in any order, each exactly once, beside fields of other names, whose values are skipped; it
also accepts a list of exactly the two values.  White space may stand around every token.
-/

namespace Reactor.Header

/-- The written form, without white space. -/
def text (header : Header) : String :=
  "\x7b\"signal\":" ++ toString header.signal.raw.toNat ++ ",\"dynamic\":" ++
    toString header.dynamic ++ "\x7d"

/-- The characters that may stand between tokens. -/
def isBlank (c : Char) : Bool := c == ' ' || c == '\n' || c == '\t' || c == '\r'

/-- What follows after white space. -/
def skipBlanks (input : List Char) : List Char := input.dropWhile isBlank

/-- What follows after white space and the character `c`. -/
def expect? (c : Char) (input : List Char) : Option (List Char) :=
  match skipBlanks input with
  | d :: rest => if c = d then some rest else none
  | [] => none

/-- What follows after a fixed word. -/
def expectWord? : List Char → List Char → Option (List Char)
  | [], input => some input
  | c :: word, d :: rest => if c = d then expectWord? word rest else none
  | _ :: _, [] => none

/-- The value of a hexadecimal digit. -/
def hexValue? (c : Char) : Option Nat :=
  if c.isDigit then some (c.toNat - '0'.toNat)
  else if 'a' ≤ c ∧ c ≤ 'f' then some (c.toNat - 'a'.toNat + 10)
  else if 'A' ≤ c ∧ c ≤ 'F' then some (c.toNat - 'A'.toNat + 10)
  else none

/-- The value of four hexadecimal digits and what follows them. -/
def codeUnit? : List Char → Option (Nat × List Char)
  | a :: b :: c :: d :: rest => do
      let a ← hexValue? a
      let b ← hexValue? b
      let c ← hexValue? c
      let d ← hexValue? d
      return (((a * 16 + b) * 16 + c) * 16 + d, rest)
  | _ => none

/-- The character that a single letter after a backslash stands for. -/
def escaped? : Char → Option Char
  | '"' => some '"'
  | '\\' => some '\\'
  | '/' => some '/'
  | 'b' => some '\x08'
  | 'f' => some '\x0c'
  | 'n' => some '\n'
  | 'r' => some '\r'
  | 't' => some '\t'
  | _ => none

/-- The character written as code units after a backslash and the letter u: one unit, or a high
surrogate followed at once by a low one. -/
def unicodeEscape? (input : List Char) : Option (Char × List Char) := do
  let (unit, rest) ← codeUnit? input
  if 0xDC00 ≤ unit ∧ unit ≤ 0xDFFF then none
  else if 0xD800 ≤ unit ∧ unit ≤ 0xDBFF then
    let rest ← expectWord? ['\\', 'u'] rest
    let (low, rest) ← codeUnit? rest
    if 0xDC00 ≤ low ∧ low ≤ 0xDFFF then
      some (Char.ofNat (0x10000 + (unit - 0xD800) * 0x400 + (low - 0xDC00)), rest)
    else none
  else some (Char.ofNat unit, rest)

/-- Reads the rest of a field name, after its opening quote. -/
def nameBody? : Nat → List Char → Option (List Char × List Char)
  | fuel + 1, c :: rest =>
      if c = '"' then some ([], rest)
      else if c = '\\' then
        match rest with
        | 'u' :: rest => do
            let (d, rest) ← unicodeEscape? rest
            let (name, rest) ← nameBody? fuel rest
            return (d :: name, rest)
        | d :: rest => do
            let d ← escaped? d
            let (name, rest) ← nameBody? fuel rest
            return (d :: name, rest)
        | [] => none
      else if c.toNat < 0x20 then none
      else do
        let (name, rest) ← nameBody? fuel rest
        return (c :: name, rest)
  | _, _ => none

/-- Reads a field name with its quotes. -/
def name? (input : List Char) : Option (List Char × List Char) := do
  let rest ← expect? '"' input
  nameBody? rest.length rest

/-- Skips the rest of a string, after its opening quote.  Escapes must be well formed, but code
units need not make up characters. -/
def skipString? : Nat → List Char → Option (List Char)
  | fuel + 1, c :: rest =>
      if c = '"' then some rest
      else if c = '\\' then
        match rest with
        | 'u' :: rest => do
            let (_, rest) ← codeUnit? rest
            skipString? fuel rest
        | d :: rest => do
            let _ ← escaped? d
            skipString? fuel rest
        | [] => none
      else if c.toNat < 0x20 then none
      else skipString? fuel rest
  | _, _ => none

/-- Skips one digit or more. -/
def skipDigits? : List Char → Option (List Char)
  | c :: rest => if c.isDigit then some (rest.dropWhile Char.isDigit) else none
  | [] => none

/-- Skips the exponent of a number, if there is one. -/
def skipExponent? : List Char → Option (List Char)
  | 'e' :: rest | 'E' :: rest =>
      match rest with
      | '+' :: rest | '-' :: rest => skipDigits? rest
      | rest => skipDigits? rest
  | input => some input

/-- Skips the unsigned part of a number: digits without needless zeros in front, perhaps decimals,
perhaps an exponent. -/
def skipNumber? (input : List Char) : Option (List Char) := do
  let rest ← match input with
    | '0' :: rest => if (rest.head?.map Char.isDigit).getD false then none else some rest
    | input => skipDigits? input
  match rest with
  | '.' :: rest => skipDigits? rest >>= skipExponent?
  | rest => skipExponent? rest

mutual

/-- Skips one value of any kind. -/
def skipValue? : Nat → List Char → Option (List Char)
  | 0, _ => none
  | fuel + 1, input =>
      match skipBlanks input with
      | 'n' :: rest => expectWord? ['u', 'l', 'l'] rest
      | 't' :: rest => expectWord? ['r', 'u', 'e'] rest
      | 'f' :: rest => expectWord? ['a', 'l', 's', 'e'] rest
      | '-' :: rest => skipNumber? rest
      | '"' :: rest => skipString? rest.length rest
      | '[' :: rest => (expect? ']' rest).orElse fun _ => skipItems? fuel rest
      | '{' :: rest => (expect? '}' rest).orElse fun _ => skipMembers? fuel rest
      | c :: rest => if c.isDigit then skipNumber? (c :: rest) else none
      | [] => none

/-- Skips the values of a list that has at least one, and its closing bracket. -/
def skipItems? : Nat → List Char → Option (List Char)
  | 0, _ => none
  | fuel + 1, input => do
      let rest ← skipValue? fuel input
      (expect? ']' rest).orElse fun _ => do
        let rest ← expect? ',' rest
        skipItems? fuel rest

/-- Skips the members of an object that has at least one, and its closing brace. -/
def skipMembers? : Nat → List Char → Option (List Char)
  | 0, _ => none
  | fuel + 1, input => do
      let rest ← expect? '"' input
      let rest ← skipString? rest.length rest
      let rest ← expect? ':' rest
      let rest ← skipValue? fuel rest
      (expect? '}' rest).orElse fun _ => do
        let rest ← expect? ',' rest
        skipMembers? fuel rest

end

/-- Reads a signal: an integer below 2¹⁶ without sign, needless zeros, decimals or exponent. -/
def signal? (input : List Char) : Option (Signal × List Char) := do
  let input := skipBlanks input
  let digits := input.takeWhile Char.isDigit
  let rest := input.dropWhile Char.isDigit
  let value := digits.foldl (fun value c => value * 10 + (c.toNat - '0'.toNat)) 0
  let shape := digits = ['0'] ∨ (digits ≠ [] ∧ digits.head? ≠ some '0')
  let plain := rest.head? ≠ some '.' ∧ rest.head? ≠ some 'e' ∧ rest.head? ≠ some 'E'
  if shape ∧ plain ∧ value < 1 <<< 16 then some (⟨value.toUInt16⟩, rest) else none

/-- Reads a truth value. -/
def flag? (input : List Char) : Option (Bool × List Char) :=
  match skipBlanks input with
  | 't' :: rest => (expectWord? ['r', 'u', 'e'] rest).map (true, ·)
  | 'f' :: rest => (expectWord? ['a', 'l', 's', 'e'] rest).map (false, ·)
  | _ => none

/-- Reads the members of an object up to its closing brace, given the fields read so far. -/
def members? : Nat → Option Signal → Option Bool → List Char → Option (Header × List Char)
  | 0, _, _, _ => none
  | fuel + 1, signal, dynamic, input => do
      let (name, rest) ← name? input
      let rest ← expect? ':' rest
      let (signal, dynamic, rest) ←
        if name = "signal".toList then
          if signal.isSome then none
          else (signal? rest).map fun (value, rest) => (some value, dynamic, rest)
        else if name = "dynamic".toList then
          if dynamic.isSome then none
          else (flag? rest).map fun (value, rest) => (signal, some value, rest)
        else (skipValue? (3 * rest.length + 3) rest).map fun rest => (signal, dynamic, rest)
      match expect? '}' rest with
      | some rest =>
          match signal, dynamic with
          | some signal, some dynamic => some ({ signal, dynamic }, rest)
          | _, _ => none
      | none => do
          let rest ← expect? ',' rest
          members? fuel signal dynamic rest

/-- Reads the two values of a list and its closing bracket. -/
def pair? (input : List Char) : Option (Header × List Char) := do
  let (signal, rest) ← signal? input
  let rest ← expect? ',' rest
  let (dynamic, rest) ← flag? rest
  let rest ← expect? ']' rest
  return ({ signal, dynamic }, rest)

/-- Reads a header from a text that holds nothing else. -/
def ofText? (text : String) : Option Header := do
  let (header, rest) ←
    match skipBlanks text.toList with
    | '{' :: rest => members? rest.length none none rest
    | '[' :: rest => pair? rest
    | _ => none
  if (skipBlanks rest).isEmpty then some header else none

end Reactor.Header
