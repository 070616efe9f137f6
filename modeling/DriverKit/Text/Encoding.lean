import DriverKit.Text.Encoding.Console
import DriverKit.Text.Encoding.Desktop
import DriverKit.Text.Encoding.Mainframe
import DriverKit.Text.Encoding.Regional
import DriverKit.Text.Encoding.Shifted
import DriverKit.Text.Encoding.Standard
import DriverKit.Text.Encoding.Windows
import DriverKit.Text.Quoted

/-!
# Encodings of text

How a text becomes bytes and bytes become a text, the names of the encodings, and the single form
that line breaks take when a file is read as text.
-/

namespace DriverKit.Text

/-- A way to write a text as bytes. -/
inductive Encoding where
  /-- Characters of seven bits, with the others in shifted runs. -/
  | utf7
  /-- One to four octets for each character. -/
  | utf8
  /-- The same, after a byte order mark. -/
  | utf8Marked
  /-- Units of two octets. -/
  | utf16 (order : ByteOrder)
  /-- Units of two octets, the lower one first, after a byte order mark. -/
  | utf16Marked
  /-- Units of four octets. -/
  | utf32 (order : ByteOrder)
  /-- Units of four octets, the lowest one first, after a byte order mark. -/
  | utf32Marked
  /-- One octet for each character below 128. -/
  | ascii
  /-- One octet for each character below 256. -/
  | latin1
  /-- Visible characters of seven bits, with the others as backslashes and numbers. -/
  | escaped
  /-- One octet for each character below 256, with the others as backslashes and numbers. -/
  | partlyEscaped
  /-- One octet for each character of a table. -/
  | page (table : CodePage)
deriving DecidableEq, Repr

namespace Encoding

/-! ## Names -/

/-- A name in its usual form: small letters, digits and points, with a single underscore for
everything else between them. -/
def normalName (name : String) : String :=
  let isKept (c : Char) : Bool := c.isAlphanum || c == '.'
  let rec words : List Char → List (List Char)
    | [] => [[]]
    | c :: rest =>
        match words rest with
        | word :: others => if isKept c then (c.toLower :: word) :: others else [] :: word :: others
        | [] => [[]]
  String.ofList (['_'].intercalate ((words name.toList).filter fun word => !word.isEmpty))

def named : List (List String × Encoding) :=
  [(["utf_7", "u7", "utf7", "unicode_1_1_utf_7"], .utf7),
   (["utf_8", "u8", "utf", "utf8", "utf8_ucs2", "utf8_ucs4", "cp65001"], .utf8),
   (["utf_8_sig"], .utf8Marked),
   (["utf_16", "u16", "utf16"], .utf16Marked),
   (["utf_16_le", "utf_16le", "unicodelittleunmarked"], .utf16 .little),
   (["utf_16_be", "utf_16be", "unicodebigunmarked"], .utf16 .big),
   (["utf_32", "u32", "utf32"], .utf32Marked),
   (["utf_32_le", "utf_32le"], .utf32 .little),
   (["utf_32_be", "utf_32be"], .utf32 .big),
   (["ascii", "646", "ansi_x3.4_1968", "ansi_x3_4_1968", "ansi_x3.4_1986", "cp367", "csascii",
     "ibm367", "iso646_us", "iso_646.irv_1991", "iso_ir_6", "us", "us_ascii"], .ascii),
   (["latin_1", "8859", "cp819", "csisolatin1", "ibm819", "iso8859", "iso8859_1", "iso_8859_1",
     "iso_8859_1_1987", "iso_ir_100", "l1", "latin", "latin1"], .latin1),
   (["charmap"], .latin1),
   (["unicode_escape"], .escaped),
   (["raw_unicode_escape"], .partlyEscaped)]

def pages : List CodePage :=
  windowsPages ++ standardPages ++ consolePages ++ desktopPages ++ regionalPages ++ mainframePages

def all : List (List String × Encoding) :=
  named ++ pages.map fun table => (table.names, .page table)

/-- Tells whether a name in its usual form is one of some names. A point may stand for an
underscore in every name but the usual one. -/
def isOneOf (name : String) (names : List String) : Bool :=
  names.contains name
    || (names.drop 1).contains
      (String.ofList (name.toList.map fun c => if c == '.' then '_' else c))

/-- The name that stands for whatever the host uses. -/
def hostName : String := "locale"

def ofName? (name : String) : Option Encoding :=
  if name == hostName then some .utf8
  else (all.find? fun entry => isOneOf (normalName name) entry.1).map (·.2)

/-! ## Writing -/

/-- A character as itself if it is visible and has seven bits, or else after a backslash. -/
def escapeUnlessVisible (c : Char) : List Char :=
  if c == '\\' then ['\\', '\\']
  else if c == '\t' then ['\\', 't']
  else if c == '\n' then ['\\', 'n']
  else if c == '\r' then ['\\', 'r']
  else if 0x20 ≤ c.toNat && c.toNat < 0x7F then [c]
  else escapeCode c.toNat

def below? (bound : Nat) (characters : List Char) : Option (List UInt8) :=
  if characters.all (·.toNat < bound) then some (characters.map fun c => UInt8.ofNat c.toNat)
  else none

def octets? (encoding : Encoding) (characters : List Char) : Option (List UInt8) :=
  let mark := '\uFEFF'
  match encoding with
  | utf7 => below? 0x80 (Shifted.write characters)
  | utf8 => some (String.ofList characters).toUTF8.toList
  | utf8Marked => some (String.ofList (mark :: characters)).toUTF8.toList
  | utf16 order => some (order.write16 characters)
  | utf16Marked => some (ByteOrder.little.write16 (mark :: characters))
  | utf32 order => some (order.write32 characters)
  | utf32Marked => some (ByteOrder.little.write32 (mark :: characters))
  | ascii => below? 0x80 characters
  | latin1 => below? 0x100 characters
  | escaped => below? 0x80 (characters.flatMap escapeUnlessVisible)
  | partlyEscaped =>
      below? 0x100 (characters.flatMap fun c => if c.toNat < 0x100 then [c] else escapeCode c.toNat)
  | page table => table.octets? characters

def encode (encoding : Encoding) (text : String) : Option ByteArray :=
  (encoding.octets? text.toList).map fun octets => ⟨octets.toArray⟩

end Encoding

/-! ## Reading -/

/-- Turns a carriage return, with or without a line feed after it, into a line feed. -/
def unifyBreaks : List Char → List Char
  | '\r' :: '\n' :: rest => '\n' :: unifyBreaks rest
  | '\r' :: rest => '\n' :: unifyBreaks rest
  | c :: rest => c :: unifyBreaks rest
  | [] => []

/-- Reads bytes as a text in the default encoding, with unified line breaks; none if the bytes are
not in that encoding. -/
def decodeLines? (bytes : ByteArray) : Option (List Char) :=
  (String.fromUTF8? bytes).map fun text => unifyBreaks text.toList

end DriverKit.Text
