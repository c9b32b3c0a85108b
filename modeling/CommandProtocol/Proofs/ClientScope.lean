import CommandProtocol.Proofs.Companions
import CommandProtocol.Proofs.MarshalPath
import Mathlib.Data.List.Perm.Basic

/-!
# Scopes of a client function

The parameters of a client function come from its signature, its variables from the
opening of its body, and the two are written independently of each other.  The lines of
the function show which names it declares and which it reads.
-/

namespace CommandProtocol

namespace ClientCode.Line

def reads (line : Line) : List String := line.pieces.filterMap Piece.read?

def declares (line : Line) : List String := line.pieces.filterMap Piece.declared?

/-- What a line declares for the lines after it; a deeper block keeps its names to itself. -/
def opens (line : Line) : List String := if line.depth ≤ 1 then line.declares else []

end ClientCode.Line

namespace Marshal

open ClientCode
open Piece (code declared read)

def functionLines (settings : Settings) (call : Call) : List Line := (ofCall settings call).lines

/-- Every name that a line reads is in the scope or declared on a line before. -/
def Scoped (scope : List String) : List Line → Prop
  | [] => True
  | line :: rest => (∀ name ∈ line.reads, name ∈ scope) ∧ Scoped (line.opens ++ scope) rest

def Scoped.decide (scope : List String) : (lines : List Line) → Decidable (Scoped scope lines)
  | [] => inferInstanceAs (Decidable True)
  | line :: rest =>
      have := Scoped.decide (line.opens ++ scope) rest
      inferInstanceAs (Decidable (_ ∧ _))

instance (scope : List String) (lines : List Line) : Decidable (Scoped scope lines) :=
  Scoped.decide scope lines

/-! ## Scopes -/

section Scopes

variable {scope : List String} {lines rest : List Line}

theorem Scoped.mono (holds : Scoped scope lines) {wider : List String} (subset : scope ⊆ wider) :
    Scoped wider lines := by
  induction lines generalizing scope wider with
  | nil => trivial
  | cons line rest ih =>
      obtain ⟨reads, later⟩ := holds
      refine ⟨fun name member => subset (reads name member), ih later ?_⟩
      exact List.append_subset.mpr
        ⟨List.subset_append_left _ _, List.subset_append_of_subset_right _ subset⟩

theorem Scoped.append (first : Scoped scope lines)
    (second : Scoped (lines.flatMap Line.opens ++ scope) rest) : Scoped scope (lines ++ rest) := by
  induction lines generalizing scope with
  | nil => exact second
  | cons line lines ih =>
      refine ⟨first.1, ih first.2 (second.mono fun name member => ?_)⟩
      simp only [List.flatMap_cons, List.mem_append] at member ⊢
      tauto

theorem scoped_of_reads (inside : ∀ line ∈ lines, ∀ name ∈ line.reads, name ∈ scope) :
    Scoped scope lines := by
  induction lines generalizing scope with
  | nil => trivial
  | cons line rest ih =>
      refine ⟨inside line List.mem_cons_self, ih fun other member name read => ?_⟩
      exact List.mem_append_right _ (inside other (List.mem_cons_of_mem _ member) name read)

@[simp] theorem mem_reads_line {depth : Nat} {statement : Statement} {name : String} :
    name ∈ (statement.line depth).reads ↔ name ∈ statement.reads :=
  Statement.mem_filterMap_read?

@[simp] theorem declares_line (depth : Nat) (statement : Statement) :
    (statement.line depth).declares = statement.declares :=
  statement.filterMap_declared?

@[simp] theorem scoped_nil : Scoped scope [] := trivial

@[simp] theorem scoped_cons_line {statement : Statement} :
    Scoped scope (statement.line 1 :: rest) ↔
      (∀ name ∈ statement.reads, name ∈ scope) ∧
        Scoped (statement.declares ++ scope) rest := by
  have opened : (statement.line 1).opens = statement.declares := declares_line 1 statement
  rw [Scoped, opened]
  simp only [mem_reads_line]

end Scopes

/-! ## The names of a function -/

def bodyNames (call : Call) : List String :=
  if (InlinePlan.ofCall call).isInline then ["io", "size", "dataSize", "cmd", "payload"]
  else ["io", "size", "cmd"]

def contextNames (call : Call) : List String := if call.noContext then [] else ["rsc"]

def ownNames (call : Call) : List String := contextNames call ++ bodyNames call

/-- The byte count of every pointer is a parameter, too. -/
def Accompanied (call : Call) : Prop :=
  ∀ param ∈ call.params, param.isPointer = true →
    param.lengthName ∈ call.params.map Variable.name

section Names

variable (settings : Settings) {call : Call}

theorem functionLines_eq (call : Call) :
    functionLines settings call =
      [⟨0, (ofCall settings call).header⟩, ⟨0, [code "\x7b"]⟩] ++
        ((openingOf settings call).map (Statement.line 1) ++
          (fillingOf settings call).flatMap Block.lines) ++
        [⟨0, [code "\x7d"]⟩, ⟨0, []⟩] := by
  have opening : ((openingOf settings call).map Block.always).flatMap Block.lines =
      (openingOf settings call).map (Statement.line 1) := by
    rw [List.flatMap_map, List.map_eq_flatMap]
    rfl
  have blocks : (ofCall settings call).blocks.flatMap Block.lines =
      (openingOf settings call).map (Statement.line 1) ++
        (fillingOf settings call).flatMap Block.lines := by
    rw [ofCall, List.flatMap_append, opening]
  rw [functionLines, Function.lines, blocks]

theorem filterMap_arguments {look? : Piece → Option String}
    (blind : ∀ text, look? (code text) = none) (parts : List (List Piece)) :
    ([code ", "].intercalate parts).filterMap look? = parts.flatMap (List.filterMap look?) := by
  induction parts with
  | nil => rfl
  | cons part rest ih =>
      cases rest with
      | nil => simp
      | cons next rest =>
          rw [List.intercalate_cons_cons, List.filterMap_append, List.filterMap_append, ih]
          simp [blind]

def Named (call : Call) : Prop := ∀ param ∈ call.params, param.name ≠ ""

theorem declares_header (named : Named call) :
    (ofCall settings call).header.filterMap Piece.declared? =
      contextNames call ++ call.params.map Variable.name := by
  have params : (call.params.map fun param =>
      Parameter.pieces ⟨param.cType, param.name⟩).flatMap (List.filterMap Piece.declared?) =
      call.params.map Variable.name := by
    rw [List.flatMap_map, List.map_eq_flatMap]
    refine List.flatMap_congr fun param known => ?_
    simp [Parameter.pieces, named param known, Piece.declared?, List.filterMap_cons]
  have context : (Parameter.pieces ⟨"RsContext", "rsc"⟩).filterMap Piece.declared? = ["rsc"] := rfl
  rw [Function.header, List.filterMap_append, List.filterMap_append,
    filterMap_arguments fun _ => rfl, ofCall, parametersOf, List.map_append, List.flatMap_append,
    List.map_map]
  change _ ++ (_ ++ (call.params.map fun param =>
    Parameter.pieces ⟨param.cType, param.name⟩).flatMap _) ++ _ = _
  rw [params, contextNames]
  cases call.noContext <;> simp [Piece.declared?, List.filterMap_cons, context]

private theorem reads_header : (ofCall settings call).header.filterMap Piece.read? = [] := by
  have quiet (parameter : Parameter) : parameter.pieces.filterMap Piece.read? = [] := by
    rw [Parameter.pieces]
    split <;> rfl
  rw [Function.header, List.filterMap_append, List.filterMap_append,
    filterMap_arguments fun _ => rfl, List.flatMap_map]
  simp [quiet, Piece.read?, List.filterMap_cons]

theorem declares_opening :
    (openingOf settings call).flatMap Statement.declares = bodyNames call := by
  have terms (names : List String) :
      (names.map Statement.addLength).flatMap Statement.declares = [] := by
    simp [Statement.declares]
  rw [openingOf, bodyNames]
  split
  · simp only [List.flatMap_append, terms]
    rfl
  · rfl

private theorem filling_quiet {copied : Bool}
    (closed : Accompanied call)
    (inline : copied = true → (InlinePlan.ofCall call).isInline = true)
    {statement : Statement} (member : statement ∈ fillingPath settings call copied) :
    statement.declares = [] ∧
      ∀ name ∈ statement.reads, name ∈ bodyNames call ++ call.params.map Variable.name := by
  have buffer : "io" ∈ bodyNames call ∧ "size" ∈ bodyNames call ∧ "cmd" ∈ bodyNames call := by
    rw [bodyNames]
    split <;> decide
  have data : copied = true → "dataSize" ∈ bodyNames call ∧ "payload" ∈ bodyNames call := by
    intro small
    rw [bodyNames, if_pos (inline small)]
    decide
  rw [fillingPath, List.mem_append, List.mem_cons] at member
  rcases member with member | rfl | member
  · obtain ⟨param, inside, member⟩ := List.mem_flatMap.mp member
    have named : param.name ∈ call.params.map Variable.name := List.mem_map_of_mem inside
    rw [storeOf] at member
    split at member
    · next both =>
        rw [Bool.and_eq_true] at both
        have length := closed param inside both.2
        have sizes := data both.1
        simp only [List.mem_cons, List.not_mem_nil, or_false] at member
        rcases member with rfl | rfl | rfl <;>
          simp [-List.mem_map, Statement.declares, Statement.reads, buffer, sizes, named, length]
    · rw [List.mem_singleton.mp member]
      simp [-List.mem_map, Statement.declares, Statement.reads, buffer, named]
  · rw [commitOf]
    cases copied with
    | true => simp [Statement.declares, Statement.reads, buffer, data rfl]
    | false => simp [Statement.declares, Statement.reads, buffer]
  · rw [returnOf] at member
    split at member
    · rw [List.mem_singleton.mp member]
      simp [Statement.declares, Statement.reads, buffer]
    · contradiction

private theorem mem_blockLines {block : Block} {line : Line} (member : line ∈ block.lines) :
    (∃ depth small, ∃ statement ∈ block.branch small, line = statement.line depth) ∨
      line.declares = [] ∧
        ∀ name ∈ line.reads, name = "dataSize" ∧ ∀ statement, block ≠ .always statement := by
  cases block with
  | always statement =>
      exact .inl ⟨1, true, statement, List.mem_cons_self, List.mem_singleton.mp member⟩
  | ifBelow limit small large =>
      simp only [Block.lines, List.mem_append, List.mem_map, List.mem_singleton] at member
      rcases member with (((rfl | ⟨statement, taken, rfl⟩) | rfl) | ⟨statement, taken, rfl⟩) | rfl
      · exact .inr ⟨rfl, fun name read => ⟨List.mem_singleton.mp read, by simp⟩⟩
      · exact .inl ⟨2, true, statement, taken, rfl⟩
      · exact .inr ⟨rfl, fun name read => absurd read List.not_mem_nil⟩
      · exact .inl ⟨2, false, statement, taken, rfl⟩
      · exact .inr ⟨rfl, fun name read => absurd read List.not_mem_nil⟩

theorem filling_lines_quiet
    (closed : Accompanied call)
    {line : Line} (member : line ∈ (fillingOf settings call).flatMap Block.lines) :
    line.declares = [] ∧
      ∀ name ∈ line.reads, name ∈ bodyNames call ++ call.params.map Variable.name := by
  obtain ⟨block, known, member⟩ := List.mem_flatMap.mp member
  rcases mem_blockLines member with ⟨depth, small, statement, taken, rfl⟩ | ⟨declares, reads⟩
  · have reached : statement ∈ path small (fillingOf settings call) :=
      List.mem_flatMap.mpr ⟨block, known, taken⟩
    rw [path_fillingOf] at reached
    have inline (copied : copies call small = true) : (InlinePlan.ofCall call).isInline = true :=
      (Bool.and_eq_true_iff.mp copied).1
    rw [declares_line]
    simp only [mem_reads_line]
    exact filling_quiet settings closed inline reached
  · refine ⟨declares, fun name read => ?_⟩
    obtain ⟨rfl, test⟩ := reads name read
    -- only an inline call has tests
    cases inline : (InlinePlan.ofCall call).isInline with
    | true => simp [bodyNames, inline]
    | false =>
        rw [fillingOf_eq_map inline] at known
        obtain ⟨statement, -, rfl⟩ := List.mem_map.mp known
        exact absurd rfl (test statement)

theorem flatMap_opens_lines (statements : List Statement) :
    (statements.map (Statement.line 1)).flatMap Line.opens =
      statements.flatMap Statement.declares := by
  rw [List.flatMap_map]
  exact List.flatMap_congr fun statement _ => declares_line 1 statement

private theorem opening_scoped {scope : List String} (context : "rsc" ∈ scope)
    (terms : ∀ term ∈ (InlinePlan.ofCall call).lengthTerms, term ∈ scope) :
    Scoped scope ((openingOf settings call).map (Statement.line 1)) := by
  rw [openingOf]
  split
  · rw [List.map_append, List.map_append]
    refine Scoped.append (Scoped.append ?_ (scoped_of_reads ?_)) ?_
    · simp [Statement.reads, Statement.declares, context]
    · rw [flatMap_opens_lines]
      intro line member name read
      simp only [List.mem_map, exists_exists_and_eq_and] at member
      obtain ⟨term, inside, rfl⟩ := member
      rw [mem_reads_line] at read
      simp only [Statement.reads, List.mem_cons, List.not_mem_nil, or_false] at read
      rcases read with rfl | rfl
      · simp [Statement.declares]
      · exact List.mem_append_right _ (terms name inside)
    · rw [← List.map_append, flatMap_opens_lines]
      simp [Statement.reads, Statement.declares]
  · simp [Statement.reads, Statement.declares, context]

private theorem declares_functionLines (named : Named call) (closed : Accompanied call) :
    (functionLines settings call).flatMap Line.declares =
      contextNames call ++ call.params.map Variable.name ++ bodyNames call := by
  have opening : ((openingOf settings call).map (Statement.line 1)).flatMap Line.declares =
      bodyNames call := by
    rw [List.flatMap_map, ← declares_opening settings]
    exact List.flatMap_congr fun statement _ => declares_line 1 statement
  have filling : ((fillingOf settings call).flatMap Block.lines).flatMap Line.declares = [] :=
    List.flatMap_eq_nil_iff.mpr fun line member => (filling_lines_quiet settings closed member).1
  have signature : Line.declares ⟨0, (ofCall settings call).header⟩ =
      contextNames call ++ call.params.map Variable.name := declares_header settings named
  rw [functionLines_eq]
  simp only [List.flatMap_append, List.flatMap_cons, List.flatMap_nil, opening, filling, signature]
  simp [Line.declares, Piece.declared?, List.filterMap_cons]

private theorem scoped_functionLines (named : Named call) (closed : Accompanied call) :
    Scoped (if call.noContext then ["rsc"] else []) (functionLines settings call) := by
  have head : ([⟨0, (ofCall settings call).header⟩, ⟨0, [code "\x7b"]⟩] : List Line).flatMap
      Line.opens = contextNames call ++ call.params.map Variable.name := by
    have signature : Line.opens ⟨0, (ofCall settings call).header⟩ =
        contextNames call ++ call.params.map Variable.name := declares_header settings named
    rw [List.flatMap_cons, signature]
    exact List.append_nil _
  have context : "rsc" ∈ contextNames call ++ call.params.map Variable.name ++
      if call.noContext then ["rsc"] else [] := by
    cases outer : call.noContext <;> simp [contextNames, outer]
  have terms : ∀ term ∈ (InlinePlan.ofCall call).lengthTerms,
      term ∈ call.params.map Variable.name := by
    intro term member
    obtain ⟨param, inside, pointer, rfl⟩ := InlinePlan.mem_lengthTerms member
    exact closed param inside pointer
  rw [functionLines_eq]
  refine Scoped.append (Scoped.append ?_ (Scoped.append ?_ ?_)) ?_
  · refine scoped_of_reads fun line member name read => ?_
    rcases List.mem_pair.mp member with rfl | rfl
    · rw [Line.reads, reads_header] at read
      contradiction
    · contradiction
  · rw [head]
    exact opening_scoped settings context fun term member =>
      List.mem_append_left _ (List.mem_append_right _ (terms term member))
  · rw [head, flatMap_opens_lines, declares_opening]
    refine scoped_of_reads fun line member name read => ?_
    have inside := (filling_lines_quiet settings closed member).2 name read
    simp only [List.mem_append] at inside ⊢
    tauto
  · refine scoped_of_reads fun line member name read => ?_
    rcases List.mem_pair.mp member with rfl | rfl <;> contradiction

private theorem nodup_declared_iff :
    (contextNames call ++ call.params.map Variable.name ++ bodyNames call).Nodup ↔
      (call.params.map Variable.name).Nodup ∧
        ∀ param ∈ call.params, param.name ∉ ownNames call := by
  have own : (ownNames call).Nodup := by
    rw [ownNames, contextNames, bodyNames]
    cases call.noContext <;> cases (InlinePlan.ofCall call).isInline <;> decide
  have moved : (contextNames call ++ call.params.map Variable.name ++ bodyNames call).Perm
      (call.params.map Variable.name ++ ownNames call) := by
    rw [ownNames, ← List.append_assoc]
    exact List.perm_append_comm.append_right _
  rw [moved.nodup_iff, List.nodup_append']
  simp [own, List.disjoint_left]

end Names

private theorem accompanied_of_parse {text : String} {table : CallTable}
    (parsed : Spec.parse text = .ok table) {call : Call} (known : call ∈ table.calls) :
    Accompanied call := by
  obtain ⟨_, block, -, rfl⟩ := Spec.exists_block_of_parse parsed call known
  intro param inside pointer
  have declared := Variable.declares_withLengths inside pointer
  obtain ⟨length, member, named⟩ := Variable.declares_iff.mp declared
  exact List.mem_map.mpr ⟨length, member, named⟩

/--
The text of a client function declares each name before it reads it, apart from the context
of a call that takes none.  It declares a name twice exactly if a parameter has the name of
another or one of the function's own.
-/
theorem client_function_scoped (settings : Settings) (text : String) (table : CallTable)
    (parsed : Spec.parse text = .ok table) (call : Call) (known : call ∈ table.calls)
    (generated : call.handcoded = false) :
    String.join ((functionLines settings call).map Line.text) = function settings call ∧
    Scoped (if call.noContext then ["rsc"] else []) (functionLines settings call) ∧
    (((functionLines settings call).flatMap Line.declares).Nodup ↔
      (call.params.map Variable.name).Nodup ∧
        ∀ param ∈ call.params, param.name ∉ ownNames call) := by
  have closed := accompanied_of_parse parsed known
  have named : Named call := fun param inside empty => by
    have word := ((Spec.parse_wellFormed parsed call known).params param inside).name
    rw [empty] at word
    contradiction
  refine ⟨text_ofCall settings call generated, scoped_functionLines settings named closed, ?_⟩
  rw [declares_functionLines settings named closed]
  exact nodup_declared_iff

def mixSpec : String :=
  "Mix \x7b\n param const void *a\n param uint8_t a_length\n param const float *b\n\x7d\n"

def mixCall : Call where
  name := "Mix"
  params :=
    [ { base := .void, pointers := 1, isConst := true, name := "a" },
      { base := .uint 8, name := "a_length" },
      { base := .float 32, pointers := 1, isConst := true, name := "b" },
      { base := .named "size_t", name := "b_length" } ]

theorem client_function_scoped_mix :
    Spec.parse mixSpec = .ok ⟨[mixCall], by decide⟩ ∧
      String.join ((functionLines {} mixCall).map Line.text) = function {} mixCall ∧
      Scoped [] (functionLines {} mixCall) ∧
      ((functionLines {} mixCall).flatMap Line.declares).Nodup := by
  have parsed : Spec.parse mixSpec = .ok ⟨[mixCall], by decide⟩ := by rfl
  obtain ⟨written, scoped_lines, nodup⟩ :=
    client_function_scoped {} mixSpec _ parsed mixCall List.mem_cons_self rfl
  exact ⟨parsed, written, scoped_lines, nodup.mpr (by decide)⟩

def resizeCall : Call where
  name := "Resize"
  params := [{ base := .uint 32, name := "size" }]

def pokeCall : Call where
  name := "Poke"
  noContext := true

/-- The reader accepts calls whose functions declare a name twice, or never. -/
theorem client_function_unscoped :
    Spec.parse "Resize \x7b\n param uint32_t size\n\x7d\nPoke \x7b\n nocontext\n\x7d\n" =
        .ok ⟨[resizeCall, pokeCall], by decide⟩ ∧
      ¬ ((functionLines {} resizeCall).flatMap Line.declares).Nodup ∧
      ¬ Scoped [] (functionLines {} pokeCall) :=
  ⟨by rfl, by decide, by decide⟩

end Marshal

end CommandProtocol
