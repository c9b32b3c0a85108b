import CommandProtocol.FileTree

/-!
# Hosts

What a run needs of its surroundings: files, the standard input and two output
streams.  A desk is a host held in memory.
-/

namespace CommandProtocol

structure Host (m : Type → Type) where
  readFile : String → ExceptT IoError m ByteArray
  writeFile : String → ByteArray → ExceptT IoError m Unit
  readInput : ExceptT IoError m ByteArray
  print : String → m Unit
  report : String → m Unit

structure Desk where
  tree : FileTree := {}
  input : ByteArray := .empty
  printed : String := ""
  reported : String := ""
  deriving DecidableEq

namespace Desk

def host : Host (StateM Desk) where
  readFile path := ExceptT.mk do return (← get).tree.read path
  writeFile path contents := ExceptT.mk do
    let desk ← get
    match desk.tree.write path contents with
    | .error error => return .error error
    | .ok tree =>
        set { desk with tree }
        return .ok ()
  readInput := ExceptT.mk do return .ok (← get).input
  print text := modify fun desk => { desk with printed := desk.printed ++ text }
  report text := modify fun desk => { desk with reported := desk.reported ++ text }

end Desk

end CommandProtocol
