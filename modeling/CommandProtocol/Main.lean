import CommandProtocol.Run

/-!
# The executable

The host of a real run, and nothing else.
-/

namespace CommandProtocol.Main

def ioError : IO.Error → IoError
  | .noFileOrDirectory .. => .notFound
  | .noSuchThing .. => .notFound
  | .invalidArgument _ code details => if code = 36 then .nameTooLong else .other details
  | .inappropriateType _ code details =>
      if code = 20 then .notDirectory else if code = 21 then .isDirectory else .other details
  | error => .other error.toString

def attempt {α : Type} (action : IO α) : ExceptT IoError IO α := ExceptT.mk do
  try
    return .ok (← action)
  catch error =>
    return .error (ioError error)

partial def readAll (stream : IO.FS.Stream) (contents : ByteArray) : IO ByteArray := do
  let chunk ← stream.read 65536
  if chunk.isEmpty then return contents
  readAll stream (contents ++ chunk)

def host : Host IO where
  readFile path := attempt (IO.FS.readBinFile path)
  writeFile path contents := attempt (IO.FS.writeBinFile path contents)
  readInput := attempt do readAll (← IO.getStdin) .empty
  print := IO.print
  report := IO.eprint

end CommandProtocol.Main

def main (arguments : List String) : IO UInt32 := do
  CommandProtocol.run CommandProtocol.Main.host arguments (← IO.getEnv "RUST_LOG")
