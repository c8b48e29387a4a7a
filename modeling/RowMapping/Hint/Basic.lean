import RowMapping.ClassRef

/-!
# Type hints

A type hint is what stands behind the colon of a field or a parameter.  Markers hang on an
`annotated` layer and say how a field maps to a column.

`same` is equality of hints.  Unions are equal when they have the same members in any order, and
`unionOf` makes the union of hints in its normal form: no union inside a union, each member once,
and a single member standing for itself.
-/

namespace RowMapping

/-- What a field says about its column.  A text that is none of these is `other`. -/
inductive Marker where
  | column (name : String)
  | adapter (cls : ClassRef)
  | factory (cls : ClassRef)
  | other (text : String)
deriving DecidableEq, Repr

inductive Scalar where
  | none
  | text (s : String)
  | int (n : Int)
  | bool (b : Bool)
deriving DecidableEq, Repr

/-- what looking up a quoted hint ends in: a name that is defined nowhere, what is no hint, a module
or a class without the member that is asked for, a text that is no expression, or any other error,
with its class and its text -/
inductive QuoteFault where
  | undefined
  | unfit (detail : String)
  | noMember (detail : String)
  | malformed
  | raised (error detail : String)
deriving DecidableEq, Repr

/-- A hint.  The parameters of a callable are a lone `ellipsis` where any are allowed.  A `text` is
a quoted hint that was never looked at, and a `forward` one that was found to be an expression;
both name nothing. -/
inductive Hint where
  | none
  | any
  | ellipsis
  | cls (c : ClassRef)
  | newType (name module : String)
  | union (members : List Hint)
  | generic (origin : ClassRef) (args : List Hint)
  | callable (params : List Hint) (result : Hint)
  | annotated (inner : Hint) (markers : List Marker)
  | list (items : List Hint)
  | literal (values : List Scalar)
  | classVar (inner : Hint)
  | initVar (inner : Hint)
  | text (name : String) (fault : QuoteFault := .undefined)
  | forward (name : String) (fault : QuoteFault := .undefined)
  | value (v : Scalar)
deriving Inhabited, Repr

/-- a quoted hint that names nothing -/
structure Dangling where
  text : String
  fault : QuoteFault
deriving DecidableEq, Repr

namespace Hint

def isClassVar : Hint → Bool
  | classVar _ => true
  | _ => false

/-! ### equality -/

def Scalar.number? : Scalar → Option Int
  | .int n => some n
  | .bool b => some (if b then 1 else 0)
  | _ => Option.none

/-- equality of scalars as numbers where both count as one -/
def Scalar.same (v w : Scalar) : Bool :=
  match Scalar.number? v, Scalar.number? w with
  | some n, some m => n == m
  | _, _ => v == w

mutual

/-- equality of hints; one initialiser is never equal to another -/
def same : Hint → Hint → Bool
  | none, none => true
  | any, any => true
  | ellipsis, ellipsis => true
  | cls c, cls d => c == d
  | newType n m, newType n' m' => n == n' && m == m'
  | union hs, union ks => allIn hs ks && ks.all fun k => someSame hs k
  | generic c hs, generic d ks => c == d && sameAll hs ks
  | callable hs r, callable ks s => sameAll hs ks && same r s
  | annotated h ms, annotated k ns => same h k && ms == ns
  | list hs, list ks => sameAll hs ks
  | literal vs, literal ws => vs.all ws.contains && ws.all vs.contains
  | classVar h, classVar k => same h k
  | text n e, text m f => n == m && e == f
  | forward n e, forward m f => n == m && e == f
  | value v, value w => Scalar.same v w
  | _, _ => false

def sameAll : List Hint → List Hint → Bool
  | [], [] => true
  | h :: hs, k :: ks => same h k && sameAll hs ks
  | _, _ => false

def allIn : List Hint → List Hint → Bool
  | [], _ => true
  | h :: hs, ks => (ks.any fun k => same h k) && allIn hs ks

def someSame : List Hint → Hint → Bool
  | [], _ => false
  | h :: hs, k => same h k || someSame hs k

end

/-! ### unions -/

/-- a quoted hint as the member of a union or an annotated layer -/
def named : Hint → Hint
  | text n e => forward n e
  | h => h

def members : Hint → List Hint
  | union hs => hs
  | h => [named h]

def distinct : List Hint → List Hint
  | [] => []
  | h :: hs => h :: (distinct hs).filter fun k => !same h k

def ofMembers : List Hint → Hint
  | [h] => h
  | hs => union hs

/-- the union of hints in its normal form -/
def unionOf (hs : List Hint) : Hint := ofMembers (distinct (hs.flatMap members))

def optional (h : Hint) : Hint := unionOf [h, none]

/-- a hint under markers, the markers of an annotated hint in front -/
def annotate (h : Hint) (markers : List Marker) : Hint :=
  match named h with
  | annotated k inner => annotated k (inner ++ markers)
  | k => annotated k markers

end Hint
end RowMapping
