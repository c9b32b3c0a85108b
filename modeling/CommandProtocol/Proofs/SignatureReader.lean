import CommandProtocol.Proofs.SpecText

/-!
# Reading a core signature back

The arguments of a signature are one list, separated by commas, with the context in front.
On the side of the core the context has no name, so it is not mistaken for a parameter, and
the text of a signature gives back the name of the call, its result, whether it takes a
context, and its parameters: `signature?_signature`.
-/

namespace CommandProtocol

/-! ## Arguments -/

def Call.items (call : Call) (context : String) (write : Variable → String) : List String :=
  (if call.noContext then [] else [context]) ++ call.params.map write

theorem Call.forall_mem_items {call : Call} {context : String} {write : Variable → String}
    {property : String → Prop} (first : property context)
    (later : ∀ param ∈ call.params, property (write param)) :
    ∀ item ∈ call.items context write, property item := by
  intro item member
  rw [items, List.mem_append, List.mem_map] at member
  rcases member with member | ⟨param, known, rfl⟩
  · split at member
    · contradiction
    · rwa [List.mem_singleton.mp member]
  · exact later param known

def Call.argumentTexts (call : Call) (form : ContextForm) : List String :=
  call.items form.declaration Variable.declaration

theorem intercalate_comma (first : String) (rest : List String) :
    ", ".intercalate (first :: rest) =
      first ++ String.join (rest.map fun text => ", " ++ text) := by
  induction rest generalizing first with
  | nil => simp
  | cons next rest ih =>
      rw [String.intercalate_cons_cons, ih, List.map_cons, String.join_cons,
        String.append_assoc, String.append_assoc]

theorem Call.signature_eq (call : Call) (start : String) (form : ContextForm) :
    call.signature start form =
      call.result.declaration ++ " " ++ (start ++ call.name) ++ " (" ++
        ", ".intercalate (call.argumentTexts form) ++ ")" := by
  cases context : call.noContext with
  | true =>
      simp [Call.signature, Call.argumentTexts, Call.items, argumentList, context,
        ← String.toList_inj]
  | false =>
      have arguments : ", ".intercalate (call.argumentTexts form) =
          form.declaration ++ argumentList call.params true := by
        rw [Call.argumentTexts, Call.items, context]
        exact intercalate_comma _ _
      simp [Call.signature, arguments, context, ← String.toList_inj]

private theorem foldl_forward {text : String} (started : text ≠ "") (names : List String) :
    names.foldl (fun text name => if text.isEmpty then name else text ++ ", " ++ name) text =
      ", ".intercalate (text :: names) := by
  induction names generalizing text with
  | nil => simp
  | cons name rest ih =>
      have longer : text ++ ", " ++ name ≠ "" := by simp
      rw [List.foldl_cons, if_neg (by simpa using started), ih longer, intercalate_comma,
        intercalate_comma, List.map_cons, String.join_cons]
      simp only [String.append_assoc]

/-- The commas are right as long as no name is empty. -/
theorem Call.forwardedArguments_eq {call : Call} {context : String} (present : context ≠ "")
    (named : ∀ param ∈ call.params, param.name ≠ "") :
    call.forwardedArguments context = ", ".intercalate (call.items context Variable.name) := by
  unfold forwardedArguments items
  cases call.noContext with
  | false => exact foldl_forward present _
  | true =>
      cases params : call.params with
      | nil => rfl
      | cons param rest =>
          have first : param.name ≠ "" := named param (params ▸ List.mem_cons_self)
          exact foldl_forward first _

/-- A first parameter without a name is dropped with its comma. -/
example : Call.forwardedArguments
    { name := "Set", noContext := true, params := [.void, Variable.void.named "a"] } "rsc" =
    "a" := by decide

/-! ## Types -/

def Variable.words (type : Variable) : List String :=
  (if type.isConst then ["const"] else []) ++ type.base.cName ::
    if type.isPointer then [String.ofList (List.replicate type.pointers '*')] else []

private theorem Variable.cType_eq (type : Variable) : type.cType = " ".intercalate type.words := by
  rw [cType, words]
  cases type.isConst <;> cases type.isPointer <;> simp [← String.toList_inj]

theorem Variable.Readable.proper {type : Variable} (readable : type.Readable)
    (plain : type.isConst = false) : type.base.cName ≠ "const" := by
  intro same
  have derived : Spec.Grammar.IsType
      (.ident "const" :: List.replicate type.pointers .star) type.bare := by
    simpa [Variable.Readable, Variable.lexemes, plain, same] using readable
  generalize head : Spec.Lexeme.ident "const" :: _ = lexemes at derived
  generalize form : type.bare = bare at derived
  cases derived with
  | plain stars other bound =>
      rw [List.cons.injEq, Spec.Lexeme.ident.injEq] at head
      exact other head.1.symm
  | const stars bound =>
      have qualified : type.isConst = true := congrArg Variable.isConst form
      rw [plain] at qualified
      contradiction

namespace ReadBack

/-! ## Declarations -/

def pointed? (isConst : Bool) : List String → Option Variable
  | [base] => some { base := .ofIdent base, isConst }
  | [base, stars] => some { base := .ofIdent base, pointers := stars.length, isConst }
  | _ => none

def type? (text : String) : Option Variable :=
  match parts ' ' text with
  | [] => none
  | first :: rest =>
      if first = "const" then pointed? true rest else pointed? false (first :: rest)

def declaration? (text : String) : Option Variable := do
  let (type, name) ← cutLast? ' ' text
  let var ← type? type
  return var.named name

section Declarations

variable {var : Variable}

theorem not_mem_cType {char : Char} (fit : var.base.WellFormed)
    (other : Spec.isWordChar char = false) (blank : char ≠ ' ') (star : char ≠ '*') :
    char ∉ var.cType.toList := by
  have base : char ∉ var.base.cName.toList :=
    not_mem_of_isIdentifier (isIdentifier_cName fit) other
  have qualifier : char ∉ "const".toList := not_mem_of_isIdentifier rfl other
  have spelled : "const ".toList = "const".toList ++ [' '] := rfl
  rw [Variable.cType]
  split <;> split <;>
    simp only [String.toList_append, List.mem_append, spelled, qualifier, base,
      String.toList_ofList, List.mem_replicate, not_or] <;> simp [blank, star]

private theorem pointed?_words (fit : var.base.WellFormed) :
    pointed? var.isConst (var.base.cName ::
      if var.isPointer then [String.ofList (List.replicate var.pointers '*')] else []) =
      some var.bare := by
  obtain ⟨base, pointers, isConst, name⟩ := var
  cases pointers with
  | zero => simp [pointed?, Variable.isPointer, Variable.bare, BaseType.ofIdent_cName fit]
  | succ pointers =>
      simp [pointed?, Variable.isPointer, Variable.bare, BaseType.ofIdent_cName fit]

theorem type?_cType (fit : var.base.WellFormed) (readable : var.Readable) :
    type? var.cType = some var.bare := by
  have base : ' ' ∉ var.base.cName.toList :=
    not_mem_of_isIdentifier (isIdentifier_cName fit) (by decide)
  have words : parts ' ' var.cType = var.words := by
    rw [Variable.cType_eq]
    refine parts_intercalate rfl (by simp [Variable.words]) ?_
    rw [Variable.words]
    cases var.isConst <;> cases var.isPointer <;> simp [base]
  have pointed := pointed?_words fit
  rw [type?, words, Variable.words]
  cases qualified : var.isConst with
  | true =>
      rw [qualified] at pointed
      simpa using pointed
  | false =>
      rw [qualified] at pointed
      simpa [readable.proper qualified] using pointed

private theorem declaration?_declaration (fit : var.WellFormed) (readable : var.Readable) :
    declaration? var.declaration = some var := by
  have cut : cutLast? ' ' var.declaration = some (var.cType, var.name) :=
    cutLast?_eq_some (toList_declaration fit) (not_mem_of_isIdentifier fit.name (by decide))
  simp only [declaration?, cut, Option.bind_eq_bind, Option.bind_some,
    type?_cType fit.base readable]
  rfl

private theorem isItem_declaration (fit : var.WellFormed) : IsItem var.declaration := by
  have apart {char : Char} (other : Spec.isWordChar char = false) (blank : char ≠ ' ')
      (star : char ≠ '*') : char ∉ var.declaration.toList := by
    have name : char ∉ var.name.toList := not_mem_of_isIdentifier fit.name other
    simp [toList_declaration fit, not_mem_cType fit.base other blank star, name, blank]
  constructor
  case filled =>
    intro empty
    have spelled := toList_declaration fit
    rw [empty] at spelled
    simp at spelled
  case comma => exact apart (by decide) (by decide) (by decide)
  case parenthesis => exact apart (by decide) (by decide) (by decide)

private theorem declaration_ne_context (fit : var.WellFormed) :
    var.declaration ≠ ContextForm.core.declaration := by
  intro same
  have cut : cutLast? ' ' var.declaration = some (var.cType, var.name) :=
    cutLast?_eq_some (toList_declaration fit) (not_mem_of_isIdentifier fit.name (by decide))
  have star : cutLast? ' ' ContextForm.core.declaration = some ("Context", "*") := by decide
  have word := fit.name
  rw [same, star, Option.some.injEq, Prod.mk.injEq] at cut
  rw [← cut.2] at word
  contradiction

end Declarations

/-! ## Signatures -/

def arguments? (texts : List String) : Option (Bool × List Variable) :=
  if texts.head? = some ContextForm.core.declaration then
    (texts.tail.mapM declaration?).map (false, ·)
  else
    (texts.mapM declaration?).map (true, ·)

def heading? (text : String) : Option (String × String × List String) := do
  let (before, after) ← cut? '(' text
  let before ← between? "" " " before
  let (result, function) ← cutLast? ' ' before
  let after ← between? "" ")" after
  let texts ← separated? " " after
  return (result, function, texts)

/-- The call that a core signature belongs to; its flags are not part of the text. -/
def signature? (start text : String) : Option Call := do
  let (result, function, texts) ← heading? text
  let name ← between? start "" function
  let result ← type? result
  let (noContext, params) ← arguments? texts
  return { name, result, params, noContext }

section Signatures

variable {call : Call}

private theorem arguments?_argumentTexts (fit : call.WellFormed) (readable : call.Readable) :
    arguments? (call.argumentTexts .core) = some (call.noContext, call.params) := by
  have params : (call.params.map Variable.declaration).mapM declaration? = some call.params := by
    have reads : ∀ param ∈ call.params, declaration? param.declaration = some (id param) :=
      fun param member => declaration?_declaration (fit.params param member)
        (readable.params param member)
    simpa using mapM_map_eq_some reads
  cases context : call.noContext with
  | false => simp [arguments?, Call.argumentTexts, Call.items, context, params]
  | true =>
      have first : (call.params.map Variable.declaration).head? ≠
          some ContextForm.core.declaration := by
        intro found
        obtain ⟨param, member, same⟩ := List.mem_map.mp (List.mem_of_head? found)
        exact declaration_ne_context (fit.params param member) same
      simp [arguments?, Call.argumentTexts, Call.items, context, params, -List.head?_map, first]

theorem isItem_argumentTexts (fit : call.WellFormed) (form : ContextForm) :
    ∀ text ∈ call.argumentTexts form, IsItem text := by
  apply Call.forall_mem_items
  · cases form <;> exact ⟨by decide, by decide, by decide⟩
  · exact fun param known => isItem_declaration (fit.params param known)

private theorem separated?_argumentTexts (fit : call.WellFormed) (form : ContextForm) :
    separated? " " (", ".intercalate (call.argumentTexts form)) =
      some (call.argumentTexts form) :=
  separated?_intercalate (by decide) (isItem_argumentTexts fit form)

theorem heading?_signature {start : String} (word : isIdentifier start = true)
    (fit : call.WellFormed) (form : ContextForm) :
    heading? (call.signature start form) =
      some (call.result.declaration, start ++ call.name, call.argumentTexts form) := by
  have bare : call.result.declaration = call.result.cType := by
    simp [Variable.declaration, fit.result.bare]
  have function : isIdentifier (start ++ call.name) = true := isIdentifier_name word fit
  have cut : cut? '(' (call.signature start form) =
      some (call.result.declaration ++ " " ++ (start ++ call.name) ++ " ",
        ", ".intercalate (call.argumentTexts form) ++ ")") := by
    refine cut?_eq_some ?_ ?_
    · simp [Call.signature_eq]
    · have type : '(' ∉ call.result.declaration.toList := by
        rw [bare]
        exact not_mem_cType fit.result.base (by decide) (by decide) (by decide)
      have name : '(' ∉ (start ++ call.name).toList :=
        not_mem_of_isIdentifier function (by decide)
      simp only [String.toList_append, List.mem_append, not_or] at name ⊢
      simp [type, name]
  have head : between? "" " " (call.result.declaration ++ " " ++ (start ++ call.name) ++ " ") =
      some (call.result.declaration ++ " " ++ (start ++ call.name)) := between?_eq_some (by simp)
  have halves : cutLast? ' ' (call.result.declaration ++ " " ++ (start ++ call.name)) =
      some (call.result.declaration, start ++ call.name) :=
    cutLast?_eq_some (by simp) (not_mem_of_isIdentifier function (by decide))
  have tail : between? "" ")" (", ".intercalate (call.argumentTexts form) ++ ")") =
      some (", ".intercalate (call.argumentTexts form)) := between?_eq_some (by simp)
  simp only [heading?, cut, head, halves, tail, separated?_argumentTexts fit form,
    Option.bind_eq_bind, Option.bind_some]
  rfl

theorem signature?_signature {start : String} (word : isIdentifier start = true)
    (fit : call.WellFormed) (readable : call.Readable) :
    signature? start (call.signature start .core) =
      some { name := call.name, result := call.result, params := call.params,
             noContext := call.noContext } := by
  have bare : call.result.declaration = call.result.cType := by
    simp [Variable.declaration, fit.result.bare]
  have same : call.result.bare = call.result := by
    rw [Variable.bare, ← fit.result.bare]
  have name : between? start "" (start ++ call.name) = some call.name :=
    between?_eq_some (by simp)
  simp only [signature?, heading?_signature word fit .core, bare, name,
    type?_cType fit.result.base readable.result, same, arguments?_argumentTexts fit readable,
    Option.bind_eq_bind, Option.bind_some]
  rfl

end Signatures

end ReadBack

end CommandProtocol
