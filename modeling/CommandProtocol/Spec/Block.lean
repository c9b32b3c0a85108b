import CommandProtocol.Call

/-!
# Blocks of a spec

A spec is a sequence of blocks, each a call name with the statements between
its braces.  `Block.call` is what a block means.
-/

namespace CommandProtocol.Spec

inductive Flag where
  | sync
  | direct
  | noContext
  | handcoded
  | handcodePlay
  | togglePlay
  deriving DecidableEq, Repr

namespace Flag

def keyword : Flag → String
  | .sync => "sync"
  | .direct => "direct"
  | .noContext => "nocontext"
  | .handcoded => "handcodeApi"
  | .handcodePlay => "handcodePlay"
  | .togglePlay => "togglePlay"

def all : List Flag :=
  [.sync, .direct, .noContext, .handcoded, .handcodePlay, .togglePlay]

def ofKeyword? (keyword : String) : Option Flag :=
  all.find? fun flag => flag.keyword == keyword

def isIgnored (flag : Flag) : Bool :=
  flag == .handcodePlay || flag == .togglePlay

end Flag

inductive Statement where
  | param (param : Variable)
  | result (type : Variable)
  | flag (flag : Flag)
  deriving DecidableEq, Repr

structure Block where
  name : String
  statements : List Statement
  deriving DecidableEq, Repr

namespace Block

def has (block : Block) (flag : Flag) : Bool :=
  block.statements.contains (.flag flag)

def params (block : Block) : List Variable :=
  block.statements.filterMap fun
    | .param param => some param
    | _ => none

/-- The last result type wins; without one the call returns nothing. -/
def result (block : Block) : Variable :=
  let results := block.statements.filterMap fun
    | .result type => some type
    | _ => none
  results.getLast?.getD .void

def call (block : Block) : Call where
  name := block.name
  result := block.result
  params := Variable.withLengths block.params
  noContext := block.has .noContext
  direct := block.has .direct
  sync := block.has .sync
  handcoded := block.has .handcoded

def ignoredFlags (block : Block) : List Flag :=
  block.statements.filterMap fun
    | .flag flag => if flag.isIgnored then some flag else none
    | _ => none

end Block

end CommandProtocol.Spec
