import DriverKit.Misuse

/-!
# Tokens

The tokens that a document is made of. Indentation has become tokens of its own: a block
collection starts with one and ends with one. A document that cannot be taken apart to its end has
a last token that says why.
-/

namespace DriverKit.Yaml

/-- Why a document cannot be read: it breaks the grammar, or a value in it makes no sense. -/
inductive Fault where
  | malformed
  | misuse (cause : Misuse)
deriving DecidableEq, Repr

/-- A tag as it is written: a handle and what follows it. -/
structure WrittenTag where
  handle : Option String
  suffix : String
deriving DecidableEq, Repr

/-- A token of a document. -/
inductive Token where
  /-- A directive that gives the version of the grammar. -/
  | versionDirective (major : Nat)
  /-- A directive that gives a handle for tags. -/
  | tagDirective (handle start : String)
  /-- Any other directive. -/
  | otherDirective
  | documentStart
  | documentEnd
  | blockListStart
  | blockMapStart
  | blockEnd
  | flowListStart
  | flowListEnd
  | flowMapStart
  | flowMapEnd
  | blockEntry
  | flowEntry
  | key
  | value
  | alias (name : String)
  | anchor (name : String)
  | tag (written : WrittenTag)
  | scalar (text : String) (plain : Bool)
  | streamEnd
  /-- The rest of the document cannot be taken apart. -/
  | broken (fault : Fault)
deriving DecidableEq, Repr

end DriverKit.Yaml
