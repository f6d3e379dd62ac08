/-
This file turns the functions of a contract into methods of its client. Functions that change
nothing become queries, which rebuild what the call gives; all others become transactions. A
method is put together as a value first and written as lines afterwards; it fails where its lines
could not be indented.
-/

import ContractClient.Client.Arguments
import ContractClient.Client.Conversion

namespace ContractClient

/-! ### Methods -/

/-- How a method finds its function: by name, or by signature where the name is not enough. -/
inductive Accessor where
  | byName (name : String)
  | bySignature (signature : String)
deriving Repr, DecidableEq

/-- What a query gives back. -/
inductive Answer where
  /-- Nothing at all. -/
  | nothing
  /-- One value of the given type, rebuilt from the raw result. -/
  | value (ty : Ty) (rebuilt : Expr)
  /-- One object of the named interface, its fields rebuilt from the items of the raw result. -/
  | record (shape : String) (fields : List (String × Expr))
deriving BEq, Repr

/-- How a method calls its function. -/
inductive CallKind where
  | query (answer : Answer)
  | transaction
deriving BEq, Repr

/-- A method that calls one function of the contract. -/
structure Method where
  name : String
  arguments : List Argument
  accessor : Accessor
  call : CallKind
deriving BEq, Repr

/-! ### Putting methods together -/

/-- How the function of the signature is found. -/
def MethodPlan.accessor (plan : MethodPlan) (function : Member) : Accessor :=
  if plan.overloaded.contains function.name then .bySignature function.signature
  else .byName function.name

/-- The raw result of a query with one output. -/
def rawResult : Expr := .source "result"

/-- One item of the raw result of a query with several outputs. -/
def rawItem (index : Nat) : Expr :=
  .source ("resultArr[" ++ toString index ++ "]")

/-- The fields of a result with their rebuilt values, from the output at the given place on. -/
def rebuildFields (shape : Interface) (index : Nat) :
    List String → Building (List (String × Expr))
  | [] => return []
  | name :: rest => do
    let ty := (shape.fieldType? name).getD ⟨"any", 0⟩
    let rebuilt ← rebuildResult (← get).registry.interfaces (rawItem index) ty 0
    Pass.requireLines [2]
    let fields ← rebuildFields shape (index + 1) rest
    return (name, rebuilt) :: fields

/-- The type of what a query gives back. -/
def returnType (member : String) : List Parameter → Building Ty
  | [] => return ⟨"void", 0⟩
  | [output] => Pass.registering (resolveParameter member output)
  | outputs => do
    let shape ← Pass.registering (resolveResult member outputs)
    return Ty.ofText shape

/-- What a query gives back, where its type is known already. -/
def buildAnswer (function : Member) (ty : Ty) : Building Answer := do
  let registry := (← get).registry
  match function.outputs with
  | [] =>
    Pass.requireLines [1]
    return .nothing
  | [_] =>
    Pass.requireLines [1]
    let rebuilt ← rebuildResult registry.interfaces rawResult ty 0
    return .value ty rebuilt
  | outputs =>
    match registry.find? ty.text with
    | none => throw (.shape (.resultNotRegistered ty.text function.name))
    | some shape =>
      Pass.requireLines [1]
      let fields ← rebuildFields shape 0 (outputFieldNames outputs)
      return .record ty.text fields

/-- The way a function is called, with the imports that its method needs. -/
def buildCall (function : Member) : Building CallKind := do
  let style := (← get).style
  match function.mutability with
  | some .readOnly =>
    let ty ← returnType function.name function.outputs
    Pass.useImport style.contractModule ["CallOptions"]
    let answer ← buildAnswer function ty
    Pass.requireLines [0]
    return .query answer
  | _ =>
    checkParameters function.name function.outputs
    Pass.useImport style.contractModule ["SendOptions"]
    Pass.useImport style.coreModule ["PromiEvent", "TransactionReceipt"]
    Pass.requireLines [1, 0]
    return .transaction

/-- The method for a function. -/
def buildMethod (function : Member) : Building Method := do
  let arguments ← buildArguments function.name function.inputs
  let name ← Pass.methodName function
  let call ← buildCall function
  return ⟨name, arguments, (← get).plan.accessor function, call⟩

/-- The arguments of `deploy`, those of the constructor if there is one. A class deploys its
contract in one way only. -/
def buildDeploy (constructor : Option Member) : Building (List Argument) := do
  let pass ← get
  if pass.hasDeploy then throw (.shape (.deployTwice pass.contract.display))
  let arguments ← match constructor with
    | none => pure []
    | some member => buildArguments "constructor" member.inputs
  Pass.useImport pass.style.contractModule ["Contract", "SendOptions"]
  modify fun pass => { pass with hasDeploy := true }
  Pass.requireLines [0, 1, 2]
  return arguments

/-! ### Writing methods -/

/-- The access to the function. -/
def Accessor.text : Accessor → String
  | byName name => "." ++ name
  | bySignature signature => "['" ++ signature ++ "']"

/-- The text of the type of what a query gives back. -/
def Answer.typeText : Answer → String
  | nothing => "void"
  | value ty _ => ty.text
  | record shape _ => shape

/-- The call of the function with the arguments of its method. -/
def Method.invocation (method : Method) : String :=
  "this.contract!.methods" ++ method.accessor.text ++ "(" ++ passedNames method.arguments ++ ")"

/-- The lines of a query that call its function and give the answer back. -/
def Answer.lines (call : String) : Answer → List Line
  | nothing => [⟨1, call⟩]
  | value _ rebuilt => [⟨1, "const result = " ++ call⟩, ⟨1, "return " ++ rebuilt.text ++ ";"⟩]
  | record _ fields =>
    [⟨1, "const resultArr: any = " ++ call⟩, ⟨1, "return \x7b"⟩] ++
      fields.map (fun field => ⟨2, field.1 ++ ": " ++ field.2.text ++ ","⟩) ++
      [⟨1, "\x7d;"⟩]

/-- The first line of a method. -/
def Method.heading (method : Method) : String :=
  match method.call with
  | .query answer =>
    method.name ++ " = async (" ++
      declaredArguments method.arguments (optionsName ++ "?: CallOptions") ++ "): Promise<" ++
      answer.typeText ++ "> => \x7b"
  | .transaction =>
    method.name ++ " = (" ++
      declaredArguments method.arguments (optionsName ++ ": SendOptions") ++
      "): PromiEvent<TransactionReceipt> => \x7b"

/-- The lines of a method between the check of the client and the closing brace. -/
def Method.callLines (method : Method) : List Line :=
  match method.call with
  | .query answer =>
    answer.lines ("await " ++ method.invocation ++ ".call(" ++ optionsName ++ ");")
  | .transaction => [⟨1, "return " ++ method.invocation ++ ".send(" ++ optionsName ++ ");"⟩]

/-- The lines of a method. -/
def Method.lines (method : Method) : List Line :=
  [⟨0, method.heading⟩, ⟨1, "this.checkInitialized();"⟩] ++ method.callLines ++ [⟨0, "\x7d;"⟩]

/-- What `deploy` passes on: the bytecode, and the arguments if there are any. -/
def deployData (arguments : List Argument) : String :=
  if arguments.isEmpty then "\x7b data: this.bytecode \x7d"
  else "\x7b data: this.bytecode, arguments: [" ++ passedNames arguments ++ "] \x7d"

/-- The lines of `deploy`. -/
def deployLines (arguments : List Argument) : List Line :=
  [⟨0, "deploy = async (" ++ declaredArguments arguments (optionsName ++ ": SendOptions") ++
      "): Promise<Contract> => \x7b"⟩,
    ⟨1, "if (!this.abi || !this.bytecode) \x7b"⟩,
    ⟨2, "throw new Error('Abi and Bytecode are required');"⟩,
    ⟨1, "\x7d"⟩,
    ⟨1, "this.contract = await new this.web3.eth.Contract(this.abi)"⟩,
    ⟨2, ".deploy(" ++ deployData arguments ++ ")"⟩,
    ⟨2, ".send(" ++ optionsName ++ ");"⟩,
    ⟨1, "this.address = this.contract.options.address;"⟩,
    ⟨1, "return this.contract;"⟩,
    ⟨0, "\x7d;"⟩]

end ContractClient
