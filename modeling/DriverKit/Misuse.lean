import DriverKit.Datum.Shown

/-!
# Misuse of values

What goes wrong when a value is used in a way that it does not allow: a key that a map lacks, a
value of the wrong shape, a numeral that stands for no number. Each cause belongs to a family, and
by its family a caller decides whether to take it up or to let it pass.
-/

namespace DriverKit

/-- A use that a value does not allow. -/
inductive Misuse where
  /-- A map was asked for a key that it does not have. -/
  | absentKey (key : Scalar)
  /-- A value without items was gone through item by item. -/
  | notIterable
  /-- A value that is no text was used as a path. -/
  | notPath
  /-- A collection was used as a key or looked up among others. -/
  | notHashable
  /-- A version was ordered against something else. -/
  | notOrdered
  /-- Names and other keys were sorted together. -/
  | mixedKeys
  /-- A value without parts was asked for one. -/
  | notIndexable
  /-- A layout was asked of a value that has none. -/
  | noLayout
  /-- Something that is no directive was written as one. -/
  | unknownDirective (shown : String)
  /-- Options were built from a name that is no option, or from too many values. -/
  | unknownOption
  /-- A value that is no map was asked for its keys. -/
  | notMapping
  /-- A value was asked for a part by a name that it does not know. -/
  | absentPart
  /-- A text that is no moment was read as one. -/
  | notMoment
  /-- A numeral has too many digits. -/
  | overlongNumeral
  /-- A text that is no numeral was read as one. -/
  | malformedNumeral
  /-- A day or a time of day does not exist. -/
  | impossibleMoment
  /-- A code point lies beyond the last one. -/
  | absentCodePoint
  /-- A cache document has a format number that is not supported. -/
  | unsupportedFormat (shown : String)
  /-- A template does not follow the grammar of templates, or asks for an unknown layout. -/
  | malformedTemplate
  /-- The greatest of no values was asked for. -/
  | nothingToChoose
  /-- A host was told a path or a word of a command that no host can be told. -/
  | unnameable
  /-- An empty text was read as a numeral. -/
  | emptyNumeral
  /-- A part was asked for at a place that is not there. -/
  | absentPlace
  /-- A number lies beyond what its use allows. -/
  | tooLarge
  /-- Bytes are no text in the default encoding. -/
  | undecodable
  /-- A text has characters that an encoding lacks. -/
  | unencodable
  /-- An encoding is not known. -/
  | unknownEncoding
  /-- Values are nested too deeply, or without end. -/
  | tooDeep
deriving DecidableEq, Repr

namespace Misuse

inductive Family where
  | key
  | shape
  | value
  | member
  | place
  | size
  | decoding
  | encoding
  | name
  | depth
deriving DecidableEq, Repr

def family : Misuse → Family
  | absentKey _ => .key
  | notIterable | notPath | notHashable | notOrdered | mixedKeys | notIndexable | noLayout
  | unknownDirective _ | unknownOption => .shape
  | overlongNumeral | malformedNumeral | impossibleMoment | absentCodePoint
  | unsupportedFormat _ | malformedTemplate | nothingToChoose | unnameable => .value
  | notMapping | absentPart | notMoment => .member
  | emptyNumeral | absentPlace => .place
  | tooLarge => .size
  | undecodable => .decoding
  | unencodable => .encoding
  | unknownEncoding => .name
  | tooDeep => .depth

/-- What a misuse is reported as, for those that have a wording of their own. -/
def message? : Misuse → Option String
  | absentKey key => some key.shown
  | unknownDirective shown => some ("Unknown directive: " ++ shown)
  | unsupportedFormat shown => some ("unsupported cache format version " ++ shown)
  | _ => none

end Misuse

end DriverKit
