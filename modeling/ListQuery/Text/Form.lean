/-!
Form-encoded text, the format of a query string. Fields are separated by ampersands, a name ends
at the first equals sign, a plus is a space, and percent escapes are bytes of UTF-8. Escapes that
are not well formed stay as they are; each maximal invalid run of bytes becomes one replacement
character.
-/
namespace ListQuery.Text

/-- A byte of UTF-8, or a character outside ASCII that stands for itself. -/
inductive FormUnit where
  | octet (b : Nat)
  | char (c : Char)
  deriving DecidableEq, Repr

def hexValue? (c : Char) : Option Nat :=
  let n := c.toNat
  if 48 ≤ n ∧ n ≤ 57 then some (n - 48)
  else if 65 ≤ n ∧ n ≤ 70 then some (n - 55)
  else if 97 ≤ n ∧ n ≤ 102 then some (n - 87)
  else none

def plainUnit (c : Char) : FormUnit := if c.toNat < 128 then .octet c.toNat else .char c

def formUnits : List Char → List FormUnit
  | [] => []
  | '+' :: rest => .octet 32 :: formUnits rest
  | '%' :: h :: l :: rest =>
    match hexValue? h, hexValue? l with
    | some a, some b => .octet (16 * a + b) :: formUnits rest
    | _, _ => .octet 37 :: formUnits (h :: l :: rest)
  | c :: rest => plainUnit c :: formUnits rest

/-- A character begun and not yet complete: the bytes still owed, the bounds of the next one and
the code point so far. -/
structure OpenChar where
  owed : Nat
  low : Nat
  high : Nat
  code : Nat
  deriving DecidableEq, Repr

inductive OctetStep where
  | complete (c : Char)
  | continued (o : OpenChar)
  | invalid
  deriving DecidableEq, Repr

def firstOctet (b : Nat) : OctetStep :=
  if b < 0x80 then .complete (Char.ofNat b)
  else if b < 0xC2 then .invalid
  else if b < 0xE0 then .continued ⟨1, 0x80, 0xBF, b - 0xC0⟩
  else if b < 0xF0 then
    .continued ⟨2, if b = 0xE0 then 0xA0 else 0x80, if b = 0xED then 0x9F else 0xBF, b - 0xE0⟩
  else if b < 0xF5 then
    .continued ⟨3, if b = 0xF0 then 0x90 else 0x80, if b = 0xF4 then 0x8F else 0xBF, b - 0xF0⟩
  else .invalid

def OpenChar.next (o : OpenChar) (b : Nat) : OctetStep :=
  if o.low ≤ b ∧ b ≤ o.high then
    let code := o.code * 64 + (b - 0x80)
    if o.owed ≤ 1 then .complete (Char.ofNat code)
    else .continued ⟨o.owed - 1, 0x80, 0xBF, code⟩
  else .invalid

def resume (pending : Option OpenChar) (b : Nat) : OctetStep :=
  match pending with
  | some o => o.next b
  | none => .invalid

/-- What is left of a character that was begun and does not continue. -/
def lostChar (o : Option OpenChar) : List Char := if o.isSome then ['\uFFFD'] else []

def decodeUnits (pending : Option OpenChar) : List FormUnit → List Char
  | [] => lostChar pending
  | .char c :: rest => lostChar pending ++ c :: decodeUnits none rest
  | .octet b :: rest =>
    match resume pending b with
    | .complete c => c :: decodeUnits none rest
    | .continued o => decodeUnits (some o) rest
    | .invalid =>
      lostChar pending ++
        match firstOctet b with
        | .complete c => c :: decodeUnits none rest
        | .continued o => decodeUnits (some o) rest
        | .invalid => '\uFFFD' :: decodeUnits none rest

def decodeForm (s : List Char) : String := String.ofList (decodeUnits none (formUnits s))

def formField (piece : List Char) : String × String :=
  (decodeForm (piece.takeWhile (· != '=')), decodeForm ((piece.dropWhile (· != '=')).drop 1))

/-- The fields of a query string in order; empty pieces are skipped. -/
def formFields (query : String) : List (String × String) :=
  ((query.toList.splitOn '&').filter (fun piece => !piece.isEmpty)).map formField

example : formFields "a=1+2&&b%5B=%C3%A9&c" = [("a", "1 2"), ("b[", "é"), ("c", "")] := by
  decide +kernel
example : decodeForm "%E2%28%zz%".toList = "\uFFFD(%zz%" := by decide +kernel

end ListQuery.Text
