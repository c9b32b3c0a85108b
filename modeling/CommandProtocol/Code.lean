/-!
# Lines of generated code

The pieces of text that several artifacts share.
-/

namespace CommandProtocol.Code

def line (depth : Nat) (text : String) : String :=
  String.ofList (List.replicate (4 * depth) ' ') ++ text ++ "\n"

def includes (files : List String) : String :=
  String.join (files.map fun file => "#include \"" ++ file ++ "\"\n")

def openNamespaces (names : List String) : String :=
  String.join (names.map fun name => "namespace " ++ name ++ " \x7b\n")

def closeNamespaces (names : List String) : String :=
  String.join (names.map fun _ => "\x7d\n")

def usingNamespaces (names : List String) : String :=
  String.join ((List.range names.length).map fun depth =>
    "using namespace " ++ "::".intercalate (names.take (depth + 1)) ++ ";\n")

end CommandProtocol.Code
