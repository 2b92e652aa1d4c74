/-!
# Hexadecimal numbers

Lower-case digits, with the marker that the messages put before them.
-/

namespace GuestShell

/-- A number in hexadecimal, as in `0x2a`. -/
def hex (n : Nat) : String := "0x" ++ String.ofList (Nat.toDigits 16 n)

end GuestShell
