/-
This file puts values that stand where names are expected in order. Texts and numbers cannot be
put in one order. A floating-point value that is no number comes neither before nor behind any
number; names with such a value among them are sorted by runs, so that their order depends on the
one they are given in.
-/

import ContractClient.Json.Name
import ContractClient.RunOrder
import ContractClient.Text.Order

namespace ContractClient

/-! ### Keys -/

/-- Whether the first key comes before the second or equals it. -/
def NameKey.le : NameKey → NameKey → Bool
  | .text left, .text right => textLe left right
  | .fraction left leftPlaces, .fraction right rightPlaces =>
    decide (left * powerOfTwo rightPlaces ≤ right * powerOfTwo leftPlaces)
  | .infinite negative, _ => negative
  | _, .infinite negative => !negative
  | _, _ => true

/-- Whether the key is a number. -/
def NameKey.isNumber : NameKey → Bool
  | .fraction _ _ => true
  | .infinite _ => true
  | .undefinedValue => true
  | _ => false

/-- Whether the key is a text. -/
def NameKey.isText : NameKey → Bool
  | .text _ => true
  | _ => false

namespace Json

/-! ### Names -/

/-- Whether the value is a floating-point value that is no number. -/
def isUndefined (value : Json) : Bool :=
  value.nameKey? == some .undefinedValue

/-- Whether the first name comes before the second or equals it. -/
def nameLe : Json → Json → Bool
  | text left, text right => textLe left right
  | left, right =>
    match left.nameKey?, right.nameKey? with
    | some left, some right => left.le right
    | _, _ => true

/-- Whether the first name comes before the second. -/
def isBefore (left right : Json) : Bool :=
  !left.isUndefined && !right.isUndefined && !nameLe right left

/-- Whether different names can be put in order: all of them are texts, or all are numbers, or
there is one at most. -/
def canBeOrdered (names : List Json) : Bool :=
  names.length ≤ 1 || names.all (·.nameKey?.any NameKey.isText) ||
    names.all (·.nameKey?.any NameKey.isNumber)

/-- The items in the order of their names. -/
def inNameOrder {α : Type} (name : α → Json) (items : List α) : List α :=
  if items.any fun item => (name item).isUndefined then
    inRunOrder (fun left right => isBefore (name left) (name right)) items
  else inOrder (fun left right => nameLe (name left) (name right)) items

end Json

end ContractClient
