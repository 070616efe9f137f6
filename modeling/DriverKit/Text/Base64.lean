import DriverKit.Text.Digit

/-!
# Bytes in base 64

Bytes written with four characters for every three of them. A reader skips characters that mean
nothing, and stops where the padding fills up the last four.
-/

namespace DriverKit.Text

def sextet? (c : Char) : Option Nat :=
  if 'A' ≤ c && c ≤ 'Z' then some (c.toNat - 'A'.toNat)
  else if 'a' ≤ c && c ≤ 'z' then some (c.toNat - 'a'.toNat + 26)
  else if isPlainDigit c then some (plainDigitValue c + 52)
  else if c == '+' then some 62
  else if c == '/' then some 63
  else none

/-- Reads bytes; `place` tells how many characters of the current four have been read, `left` is
what the last of them leaves to the next byte, and `padding` counts the padding after it. -/
def readSextets (place left padding : Nat) : List Char → Option (List UInt8)
  | [] => if place == 0 then some [] else none
  | c :: rest =>
      if c == '=' then
        if place < 2 then readSextets place left padding rest
        else if 4 ≤ place + padding + 1 then some []
        else readSextets place left (padding + 1) rest
      else
        match sextet? c with
        | none => readSextets place left padding rest
        | some value =>
            match place with
            | 0 => readSextets 1 value 0 rest
            | 1 =>
                (readSextets 2 (value % 16) 0 rest).map
                  (UInt8.ofNat (left * 4 + value / 16) :: ·)
            | 2 =>
                (readSextets 3 (value % 4) 0 rest).map
                  (UInt8.ofNat (left * 16 + value / 4) :: ·)
            | _ => (readSextets 0 0 0 rest).map (UInt8.ofNat (left * 64 + value) :: ·)

/-- The bytes that a text in base 64 stands for, unless its end is missing. -/
def readBase64? (characters : List Char) : Option (List UInt8) :=
  readSextets 0 0 0 characters

end DriverKit.Text
