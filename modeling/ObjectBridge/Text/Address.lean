/-!
# Addresses in texts

Descriptions may name an address of the running process, such as `0x7ffe12ab`.
It differs from run to run and says nothing, so a mark stands in its place in
whatever is shown to a reader.

Main results:

- Definition `masked`: a text with a mark in place of each address.
-/

namespace ObjectBridge.Text

/-- Whether a character is a hexadecimal digit. -/
def isHexDigit (c : Char) : Bool :=
  c.isDigit || ('a' ≤ c && c ≤ 'f') || ('A' ≤ c && c ≤ 'F')

/-- The number of digits from which on they are taken for an address. -/
def addressLength : Nat := 6

/-- Characters with a question mark in place of the digits of each address.  `previous` is the
character written before, `inAddress` tells whether the digits that follow belong to an address. -/
def maskFrom (previous : Char) (inAddress : Bool) : List Char → List Char
  | [] => []
  | c :: cs =>
    if inAddress && isHexDigit c then maskFrom previous true cs
    else if previous == '0' && c == 'x' && addressLength ≤ (cs.takeWhile isHexDigit).length then
      'x' :: '?' :: maskFrom '?' true cs
    else c :: maskFrom c false cs

/-- A text with a question mark in place of the digits of each address. -/
def masked (s : String) : String :=
  String.ofList (maskFrom ' ' false s.toList)

end ObjectBridge.Text
