/-
This file holds the expressions that rebuild the result of a call, and their text. An expression
starts from a raw value; it takes properties of it, makes whole numbers of texts, maps lists
item by item, and puts objects together.
-/

namespace ContractClient

/-- An expression on a raw value. -/
inductive Expr where
  /-- The raw value itself, by the text that names it. -/
  | source (text : String)
  /-- The item at hand inside a `map`. -/
  | variable (name : String)
  /-- A property of an object. -/
  | property (value : Expr) (name : String)
  /-- The whole number that a value writes. -/
  | bigInt (value : Expr)
  /-- The list of the images of the items. -/
  | map (list : Expr) (item : String) (image : Expr)
  /-- An object of the given properties. -/
  | object (properties : List (String × Expr))
deriving Inhabited, BEq, Repr

/-- Whether the expression is written as an object literal. -/
def Expr.isObject : Expr → Bool
  | .object _ => true
  | _ => false

mutual

/-- The text of an expression. An object that is the image of an item stands in parentheses, so
that its brace does not open a block. -/
def Expr.text : Expr → String
  | .source text => text
  | .variable name => name
  | .property value name => value.text ++ "." ++ name
  | .bigInt value => "BigInt(" ++ value.text ++ ")"
  | .map list item image =>
    let body := if image.isObject then "(" ++ image.text ++ ")" else image.text
    list.text ++ ".map((" ++ item ++ ": any) => " ++ body ++ ")"
  | .object properties => "\x7b " ++ ", ".intercalate (propertyTexts properties) ++ " \x7d"
termination_by structural expression => expression

/-- The texts of the properties of an object. -/
def propertyTexts : List (String × Expr) → List String
  | [] => []
  | (name, value) :: rest => (name ++ ": " ++ value.text) :: propertyTexts rest
termination_by structural properties => properties

end

end ContractClient
