import ListQuery.Number.Numeral
/-!
Whole numbers as text and text as whole numbers. Both directions are refused beyond 4300 digits;
the sign is not counted, leading zeros are.
-/
namespace ListQuery.Number

/-- A whole number with more digits than may be read or written. -/
inductive WholeFault where
  | tooLongToRead (digits : Nat)
  | tooLongToWrite
  deriving DecidableEq, Repr

def WholeFault.message : WholeFault → String
  | .tooLongToRead digits =>
    s!"Exceeds the limit ({maxWholeDigits} digits) for integer string conversion: " ++
      s!"value has {digits} digits; use sys.set_int_max_str_digits() to increase the limit"
  | .tooLongToWrite =>
    s!"Exceeds the limit ({maxWholeDigits} digits) for integer string conversion; " ++
      "use sys.set_int_max_str_digits() to increase the limit"

def WholeNumeral.value? (w : WholeNumeral) : Except WholeFault Int :=
  if maxWholeDigits < w.digits.length then .error (.tooLongToRead w.digits.length) else .ok w.value

def wholeChars (n : Int) : List Char :=
  (if n < 0 then ['-'] else []) ++ Nat.toDigits 10 n.natAbs

def wholeText (n : Int) : String := String.ofList (wholeChars n)

def writeWhole (n : Int) : Except WholeFault String :=
  if maxWholeDigits < (Nat.toDigits 10 n.natAbs).length then .error .tooLongToWrite
  else .ok (wholeText n)

example : wholeText (-120) = "-120" := by decide +kernel
example : (writeWhole 0).toOption = some "0" := by decide +kernel

end ListQuery.Number
