/-!
# Units of text

Characters as units of two or four octets, in either order of the octets. A character beyond 65535
takes two units of two octets.
-/

namespace DriverKit.Text

inductive ByteOrder where
  /-- The lowest octet first. -/
  | little
  /-- The highest octet first. -/
  | big
deriving DecidableEq, Repr

def units16 (c : Char) : List Nat :=
  if c.toNat < 0x10000 then [c.toNat]
  else
    let offset := c.toNat - 0x10000
    [0xD800 + offset / 0x400, 0xDC00 + offset % 0x400]

def lowestFirst : Nat → Nat → List UInt8
  | 0, _ => []
  | count + 1, unit => UInt8.ofNat (unit % 256) :: lowestFirst count (unit / 256)

namespace ByteOrder

def octets (order : ByteOrder) (count unit : Nat) : List UInt8 :=
  match order with
  | little => lowestFirst count unit
  | big => (lowestFirst count unit).reverse

def write16 (order : ByteOrder) (characters : List Char) : List UInt8 :=
  (characters.flatMap units16).flatMap (order.octets 2)

def write32 (order : ByteOrder) (characters : List Char) : List UInt8 :=
  characters.flatMap fun c => order.octets 4 c.toNat

end ByteOrder

end DriverKit.Text
