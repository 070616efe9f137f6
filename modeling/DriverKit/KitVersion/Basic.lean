/-!
# Kit versions

The release number of a kit: whole numbers, the most significant first. Fields that are missing at
the end count as zero, so versions with different numbers of fields can be equal. Equality looks
at the fields without the zeros at their end; the order compares the fields filled up with zeros
to one length.
-/

namespace DriverKit

/-- A release number of a kit. -/
structure KitVersion where
  fields : List Nat
deriving DecidableEq, Repr

namespace KitVersion

/-- The fields without zeros at their end, but with at least the first field. -/
def significant : List Nat → List Nat
  | [] => []
  | first :: rest => first :: (rest.reverse.dropWhile (· == 0)).reverse

def filled (width : Nat) (fields : List Nat) : List Nat :=
  fields ++ List.replicate (width - fields.length) 0

def isBefore : List Nat → List Nat → Bool
  | [], [] => false
  | [], _ :: _ => true
  | _ :: _, [] => false
  | left :: leftRest, right :: rightRest =>
      left < right || (left == right && isBefore leftRest rightRest)

/-- Equality of versions: missing fields count as zero. -/
def same (left right : KitVersion) : Bool :=
  significant left.fields == significant right.fields

def less (left right : KitVersion) : Bool :=
  let width := max left.fields.length right.fields.length
  isBefore (filled width left.fields) (filled width right.fields)

def lessOrSame (left right : KitVersion) : Bool :=
  left.less right || left.same right

def greater (left right : KitVersion) : Bool :=
  !left.less right && !left.same right

def greaterOrSame (left right : KitVersion) : Bool :=
  !left.less right

instance : BEq KitVersion := ⟨same⟩

instance : Hashable KitVersion := ⟨fun version => hash (significant version.fields)⟩

/-- The number of the build: the third field, or zero. -/
def build (version : KitVersion) : Nat :=
  version.fields[2]?.getD 0

def text (version : KitVersion) : String :=
  ".".intercalate (version.fields.map Nat.repr)

instance : ToString KitVersion := ⟨text⟩

def shown (version : KitVersion) : String :=
  "KitVersion('" ++ version.text ++ "')"

/-! ## Sorting -/

/-- The versioned items, newest first; equal versions keep their order. -/
def newestFirst {α : Type} (version : α → KitVersion) (items : List α) : List α :=
  items.mergeSort fun left right => !(version left).less (version right)

/-- The newest of one or more versions, the first among equals. -/
def newest (first : KitVersion) (others : List KitVersion) : KitVersion :=
  others.foldl (fun best version => if version.greater best then version else best) first

end KitVersion

end DriverKit
