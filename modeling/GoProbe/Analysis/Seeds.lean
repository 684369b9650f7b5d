import GoProbe.Dict
import GoProbe.Tree.Walk

/-!
# Literal seeds

The constants written in a body, by the name of their type. A sign and the literal behind it are
one seed. How often a value occurs says something too, so nothing is dropped for having been seen.
-/

namespace GoProbe

namespace Expr

/-- Whether this is a sign with its literal and their common value. -/
def isSignedLiteral : Expr → Bool
  | .unary .neg (.basicLit _) (some _) => true
  | .unary .plus (.basicLit _) (some _) => true
  | _ => false

/-- The value that this expression spells as one unit. -/
def seed? : Expr → Option Constant
  | .basicLit lit => lit.constant
  | .unary .neg (.basicLit _) constant => constant
  | .unary .plus (.basicLit _) constant => constant
  | _ => none

end Expr

/-- The constants of a walk in written order. -/
def seedsOf (nodes : List Node) : List Constant :=
  nodes.filterMap fun
    | .expr x => x.seed?
    | _ => none

/-- Adds a constant to the values of its type, if it is a primitive type. -/
def addSeed (buckets : Dict (List String)) (constant : Constant) : Dict (List String) :=
  let typeName := defaultTypeName constant.typeName
  if isPrimitiveName typeName then buckets.append typeName [constant.value] else buckets

/-- The seeds of a body by type name. -/
def harvest (body : Block) : Dict (List String) :=
  (seedsOf (Stmt.walkBlock (fun x => !x.isSignedLiteral) body)).foldl addSeed .empty

end GoProbe
