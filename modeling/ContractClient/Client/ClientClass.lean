/-
This file puts the client class of a contract together: what every client has, one method for
each function, and `deploy` at the end.
-/

import ContractClient.Client.Method

namespace ContractClient

/-- A client class: its name, its methods in the order of the ABI, and the arguments of its
`deploy`. -/
structure ClientClass where
  name : String
  methods : List Method
  deployArguments : List Argument
deriving BEq, Repr

/-- The methods for the functions, in their order. -/
def buildMethods : List Member → Building (List Method)
  | [] => return []
  | function :: rest => do
    let method ← buildMethod function
    let methods ← buildMethods rest
    return method :: methods

/-- The client class for the members of a contract. -/
def buildClass (members : List Member) : Building ClientClass := do
  let style := (← get).style
  Pass.useImport style.contractModule ["Contract"]
  Pass.planNames members
  modify fun pass => { pass with level := 1 }
  Pass.requireLines [0, 1, 2, 3]
  let methods ← buildMethods (functionsAmong members)
  let constructor := constructorAmong members
  if constructor.isNone then modify fun pass => pass.notice (.defaultDeploy pass.contract)
  let deployArguments ← buildDeploy constructor
  return ⟨(← get).className, methods, deployArguments⟩

/-! ### What every client has -/

/-- The fields of a client. -/
def fieldLines : List Line :=
  [⟨0, "private web3: Web3;"⟩,
    ⟨0, "private contract: Contract | undefined;"⟩,
    ⟨0, "private abi: any | undefined;"⟩,
    ⟨0, "private address: string | undefined;"⟩,
    ⟨0, "private bytecode: string | undefined;"⟩]

/-- The constructor of a client. -/
def constructorLines : List Line :=
  [⟨0, "constructor(web3: Web3, contractInfo?: " ++ contractInfoName ++ ") \x7b"⟩,
    ⟨1, "this.web3 = web3;"⟩,
    ⟨1, "this.abi = contractInfo?.abi;"⟩,
    ⟨1, "this.address = contractInfo?.address;"⟩,
    ⟨1, "this.bytecode = contractInfo?.bytecode;"⟩,
    ⟨0, "\x7d"⟩]

/-- The check that runs before every call. -/
def checkLines : List Line :=
  [⟨0, "private checkInitialized = () => \x7b"⟩,
    ⟨1, "if (!this.contract) \x7b"⟩,
    ⟨2, "if (!this.abi || !this.address) \x7b"⟩,
    ⟨3, "throw new Error('Abi and Address are required');"⟩,
    ⟨2, "\x7d"⟩,
    ⟨2, "this.contract = new this.web3.eth.Contract(this.abi, this.address);"⟩,
    ⟨1, "\x7d"⟩,
    ⟨0, "\x7d;"⟩]

/-- The query for the balance of the contract. -/
def balanceLines : List Line :=
  [⟨0, "balance = async (): Promise<bigint> => \x7b"⟩,
    ⟨1, "this.checkInitialized();"⟩,
    ⟨1, "const result = await this.web3.eth.getBalance(this.contract!.options.address);"⟩,
    ⟨1, "return BigInt(result);"⟩,
    ⟨0, "\x7d;"⟩]

/-! ### Writing the class -/

/-- The members of the class, each as its lines. -/
def ClientClass.parts (client : ClientClass) : List (List Line) :=
  [fieldLines, constructorLines, checkLines, balanceLines] ++ client.methods.map Method.lines ++
    [deployLines client.deployArguments]

/-- The text of the class, with a blank line between any two of its members. -/
def ClientClass.render (client : ClientClass) (style : Style) : String :=
  "export default class " ++ client.name ++ " \x7b\n" ++
    "\n\n".intercalate (client.parts.map (renderLines style.indentUnit 1)) ++ "\n\x7d"

end ContractClient
