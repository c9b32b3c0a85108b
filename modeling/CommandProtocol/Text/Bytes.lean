/-!
# Places in a text

A place in a text counts the bytes before it, as the text is encoded in UTF-8.
There is no place inside a character.
-/

namespace CommandProtocol.Text

def size (text : List Char) : Nat := text.foldl (fun total char => total + char.utf8Size) 0

def splitAt? : Nat → List Char → Option (List Char × List Char)
  | 0, text => some ([], text)
  | _ + 1, [] => none
  | place + 1, char :: rest =>
      if place + 1 < char.utf8Size then none
      else (splitAt? (place + 1 - char.utf8Size) rest).map fun (before, after) =>
        (char :: before, after)

def cut? (text : List Char) (start stop : Nat) : Option String := do
  let (before, _) ← splitAt? stop text
  let (_, part) ← splitAt? start before
  return String.ofList part

end CommandProtocol.Text
