import CommandProtocol.Proofs.ClientReader
import Mathlib.Data.List.Forall2

/-!
# Control paths of a client function

A client function branches on nothing but the data size, and every test compares it with
the same limit.  So a run follows one of two paths: on the one every test finds the data
small, on the other every test finds it too large.  Either path is a list of statements
with the same three parts: an opening that reserves the record, the stores of the
parameters in order, and the commit with what comes after it.
-/

namespace CommandProtocol.ClientCode

/-! ## Paths -/

def Block.branch (small : Bool) : Block → List Statement
  | .always statement => [statement]
  | .ifBelow _ below above => if small then below else above

/-- The statements of a body when all its tests have the same outcome. -/
def path (small : Bool) (blocks : List Block) : List Statement :=
  blocks.flatMap (Block.branch small)

@[simp] theorem path_append (small : Bool) (first second : List Block) :
    path small (first ++ second) = path small first ++ path small second := by
  simp [path]

@[simp] theorem path_map_always (small : Bool) (statements : List Statement) :
    path small (statements.map .always) = statements := by
  induction statements with
  | nil => rfl
  | cons statement rest ih =>
      change statement :: path small (rest.map .always) = statement :: rest
      rw [ih]

def copies (call : Call) (small : Bool) : Bool :=
  (InlinePlan.ofCall call).isInline && small

def fillingPath (settings : Settings) (call : Call) (copied : Bool) : List Statement :=
  call.params.flatMap (storeOf copied) ++ commitOf settings call copied :: returnOf call

section Parts

variable (settings : Settings) (call : Call)

private theorem path_storeBlocks (small : Bool) (params : List Variable) :
    path small (params.map (storeBlock settings)) = params.flatMap (storeOf small) := by
  have single (param : Variable) :
      (storeBlock settings param).branch small = storeOf small param := by
    cases small <;> cases pointer : param.isPointer <;>
      simp [storeBlock, storeOf, Block.branch, pointer]
  simp [path, List.flatMap_map, single]

theorem fillingOf_eq_map {settings : Settings} {call : Call}
    (plain : (InlinePlan.ofCall call).isInline = false) :
    fillingOf settings call = (fillingPath settings call false).map .always := by
  have stores : call.params.map (fun param => Block.always (.store param.name param.name)) =
      (call.params.flatMap (storeOf false)).map .always := by
    rw [List.map_flatMap, List.map_eq_flatMap]
    rfl
  simp [fillingOf, fillingPath, plain, stores]

theorem path_fillingOf (small : Bool) :
    path small (fillingOf settings call) = fillingPath settings call (copies call small) := by
  cases inline : (InlinePlan.ofCall call).isInline with
  | false => simp [fillingOf_eq_map inline, copies, inline]
  | true =>
      have commit : path small [.ifBelow settings.inlineThreshold.toNat
          [commitOf settings call true] [commitOf settings call false]] =
          [commitOf settings call small] := by
        cases small <;> rfl
      rw [fillingOf, if_pos inline, path_append, path_append, path_storeBlocks, path_map_always,
        commit, copies, inline, Bool.true_and, fillingPath, List.append_assoc,
        List.singleton_append]

theorem path_ofCall (small : Bool) :
    path small (ofCall settings call).blocks =
      openingOf settings call ++ fillingPath settings call (copies call small) := by
  rw [ofCall, path_append, path_map_always, path_fillingOf]

private theorem tested_ofCall (limit : Nat) (small large : List Statement)
    (member : .ifBelow limit small large ∈ (ofCall settings call).blocks) :
    limit = settings.inlineThreshold.toNat := by
  have plain {statements : List Statement}
      (inside : .ifBelow limit small large ∈ statements.map Block.always) : False := by
    simp at inside
  rcases List.mem_append.mp member with member | member
  · exact (plain member).elim
  · cases inline : (InlinePlan.ofCall call).isInline with
    | false =>
        rw [fillingOf_eq_map inline] at member
        exact (plain member).elim
    | true =>
        simp only [fillingOf, inline, if_true, List.mem_append, List.mem_map,
          List.mem_singleton] at member
        rcases member with (⟨param, -, test⟩ | test) | ⟨statement, -, test⟩
        · rw [storeBlock] at test
          split at test <;> simp_all
        · exact (Block.ifBelow.inj test).1
        · contradiction

theorem filterMap_path {β : Type} {read? : Statement → Option β} (small : Bool)
    (stores : ∀ copied param, ∀ statement ∈ storeOf copied param, read? statement = none)
    (returned : ∀ type, read? (.returnResult type) = none) :
    (path small (ofCall settings call).blocks).filterMap read? =
      (openingOf settings call).filterMap read? ++
        [commitOf settings call (copies call small)].filterMap read? := by
  have filled : (call.params.flatMap (storeOf (copies call small))).filterMap read? = [] := by
    refine List.filterMap_eq_nil_iff.mpr fun statement member => ?_
    obtain ⟨param, -, inside⟩ := List.mem_flatMap.mp member
    exact stores _ param statement inside
  have ended : (returnOf call).filterMap read? = [] := by
    rw [returnOf]
    split <;> simp [returned]
  rw [path_ofCall, fillingPath, ← List.singleton_append, List.filterMap_append,
    List.filterMap_append, List.filterMap_append, filled, ended, List.nil_append, List.append_nil]

end Parts

/-! ## Records and ids -/

def Statement.reserved? : Statement → Option String
  | .reserve record _ => some record
  | _ => none

def Statement.committed? : Statement → Option String
  | .commit _ id _ => some id
  | _ => none

@[simp] theorem reserved_path (settings : Settings) (call : Call) (small : Bool) :
    (path small (ofCall settings call).blocks).filterMap Statement.reserved? =
      [settings.recordPrefix ++ call.name] := by
  have stores (copied : Bool) (param : Variable) :
      ∀ statement ∈ storeOf copied param, statement.reserved? = none := by
    rw [storeOf]
    split <;> simp [Statement.reserved?]
  rw [filterMap_path settings call small stores fun _ => rfl, openingOf, commitOf]
  split <;>
    simp [Statement.reserved?, Settings.recordName, List.filterMap_cons, Function.comp_def]

@[simp] theorem committed_path (settings : Settings) (call : Call) (small : Bool) :
    (path small (ofCall settings call).blocks).filterMap Statement.committed? =
      [settings.recordPrefix ++ "ID_" ++ call.name] := by
  have stores (copied : Bool) (param : Variable) :
      ∀ statement ∈ storeOf copied param, statement.committed? = none := by
    rw [storeOf]
    split <;> simp [Statement.committed?]
  rw [filterMap_path settings call small stores fun _ => rfl, openingOf, commitOf]
  split <;>
    simp [Statement.committed?, Settings.commandIdName, List.filterMap_cons, Function.comp_def]

/-! ## Safety of the commit -/

def Statement.isStore : Statement → Bool
  | .store _ _ | .storePayload _ _ => true
  | _ => false

def Statement.isCommit : Statement → Bool
  | .commit _ _ _ => true
  | _ => false

def Stores (param : Variable) (statement : Statement) : Prop :=
  statement = .store param.name param.name ∨ statement = .storePayload param.name param.cType

/--
What a path has to observe so that no record leaves the client asynchronously while it
holds the caller's addresses or while its result is awaited.  The stores are matched with
the parameters by position, since names may repeat.
-/
structure SafePath (call : Call) (statements : List Statement) : Prop where
  stores : List.Forall₂ Stores call.params (statements.filter Statement.isStore)
  one_commit : ∃ waits id withData,
    statements.filter Statement.isCommit = [.commit waits id withData]
  commit_last : ∀ before waits id withData after,
    statements = before ++ .commit waits id withData :: after →
      after.filter Statement.isStore = []
  waits : ∀ waits id withData, .commit waits id withData ∈ statements →
    (∃ param, (param, .store param.name param.name) ∈
        call.params.zip (statements.filter Statement.isStore) ∧ param.isPointer = true) ∨
      call.returnsValue = true → waits = true
  /-- What an asynchronous commit sends: plain values and addresses of copied data. -/
  asynchronous : ∀ id withData, .commit false id withData ∈ statements →
    call.result.isVoid = true ∧
      ∀ param store, (param, store) ∈ call.params.zip (statements.filter Statement.isStore) →
        param.isPointer = true → store = .storePayload param.name param.cType

def storing (copied : Bool) (param : Variable) : Statement :=
  if copied && param.isPointer then .storePayload param.name param.cType
  else .store param.name param.name

section Safety

variable (settings : Settings) (call : Call)

private theorem opening_quiet :
    ∀ statement ∈ openingOf settings call,
      statement.isStore = false ∧ statement.isCommit = false := by
  intro statement member
  simp only [openingOf] at member
  split at member
  · simp only [List.mem_append, List.mem_cons, List.mem_map, List.not_mem_nil,
      or_false] at member
    rcases member with ((rfl | rfl | rfl) | ⟨term, -, rfl⟩) | rfl | rfl <;>
      exact ⟨rfl, rfl⟩
  · simp only [List.mem_cons, List.not_mem_nil, or_false] at member
    rcases member with rfl | rfl | rfl <;> exact ⟨rfl, rfl⟩

private theorem return_quiet :
    ∀ statement ∈ returnOf call, statement.isStore = false ∧ statement.isCommit = false := by
  intro statement member
  simp only [returnOf] at member
  split at member
  · rw [List.mem_singleton] at member
    subst statement
    exact ⟨rfl, rfl⟩
  · contradiction

private theorem commit_store (copied : Bool) (param : Variable) :
    ∀ statement ∈ storeOf copied param, statement.isCommit = false := by
  rw [storeOf]
  split <;> simp [Statement.isCommit]

private theorem filter_storeOf (copied : Bool) (params : List Variable) :
    (params.flatMap (storeOf copied)).filter Statement.isStore = params.map (storing copied) := by
  induction params with
  | nil => rfl
  | cons param rest ih =>
      rw [List.flatMap_cons, List.filter_append, ih, List.map_cons, storeOf, storing]
      split <;> rfl

private theorem filter_isStore_path (small : Bool) :
    (path small (ofCall settings call).blocks).filter Statement.isStore =
      call.params.map (storing (copies call small)) := by
  have opening : (openingOf settings call).filter Statement.isStore = [] :=
    List.filter_eq_nil_iff.mpr fun statement member => by
      simp [(opening_quiet settings call statement member).1]
  have returned : (returnOf call).filter Statement.isStore = [] :=
    List.filter_eq_nil_iff.mpr fun statement member => by
      simp [(return_quiet call statement member).1]
  have commit (copied : Bool) : (commitOf settings call copied).isStore = false := rfl
  rw [path_ofCall, fillingPath, List.filter_append, List.filter_append,
    List.filter_cons_of_neg (by simp [commit]), opening, filter_storeOf, returned,
    List.nil_append, List.append_nil]

private theorem filter_isCommit_path (small : Bool) :
    (path small (ofCall settings call).blocks).filter Statement.isCommit =
      [commitOf settings call (copies call small)] := by
  have opening : (openingOf settings call).filter Statement.isCommit = [] :=
    List.filter_eq_nil_iff.mpr fun statement member => by
      simp [(opening_quiet settings call statement member).2]
  have returned : (returnOf call).filter Statement.isCommit = [] :=
    List.filter_eq_nil_iff.mpr fun statement member => by
      simp [(return_quiet call statement member).2]
  have stores (copied : Bool) :
      (call.params.flatMap (storeOf copied)).filter Statement.isCommit = [] := by
    refine List.filter_eq_nil_iff.mpr fun statement member => ?_
    obtain ⟨param, -, inside⟩ := List.mem_flatMap.mp member
    simp [commit_store copied param statement inside]
  have commit (copied : Bool) : (commitOf settings call copied).isCommit = true := rfl
  rw [path_ofCall, fillingPath, List.filter_append, List.filter_append,
    List.filter_cons_of_pos (commit _), opening, stores, returned, List.nil_append,
    List.nil_append]

private theorem filter_isStore_after_commit {small : Bool} {before after : List Statement}
    {waits : Bool} {id : String} {withData : Bool}
    (split : path small (ofCall settings call).blocks =
      before ++ .commit waits id withData :: after) :
    after.filter Statement.isStore = [] := by
  rw [path_ofCall, fillingPath, ← List.append_assoc] at split
  have early : .commit waits id withData ∉
      openingOf settings call ++ call.params.flatMap (storeOf (copies call small)) := by
    intro member
    rcases List.mem_append.mp member with opening | store
    · exact absurd (opening_quiet settings call _ opening).2 (by simp [Statement.isCommit])
    · obtain ⟨param, -, inside⟩ := List.mem_flatMap.mp store
      exact absurd (commit_store _ param _ inside) (by simp [Statement.isCommit])
  have late : .commit waits id withData ∉ returnOf call := fun member =>
    absurd (return_quiet call _ member).2 (by simp [Statement.isCommit])
  -- There is only one commit, so the two ways to cut the path at it are the same.
  obtain ⟨-, -, rfl⟩ := (List.append_cons_inj_of_notMem early late).mp split
  exact List.filter_eq_nil_iff.mpr fun statement member => by
    simp [(return_quiet call statement member).1]

theorem copies_of_returnsValue {small : Bool} (returns : call.returnsValue = true) :
    copies call small = false := by
  cases inline : (InlinePlan.ofCall call).isInline with
  | false => rw [copies, inline, Bool.false_and]
  | true =>
      rw [(InlinePlan.ofCall_of_isInline inline).2.1] at returns
      contradiction

theorem waits_of_isPointer {param : Variable} (known : param ∈ call.params)
    (pointer : param.isPointer = true) : waits call = true := by
  simp [waits, Call.hasPointerParams, List.any_eq_true.mpr ⟨param, known, pointer⟩]

theorem mem_zip_storing {copied : Bool} {param : Variable} {store : Statement}
    (paired : (param, store) ∈ call.params.zip (call.params.map (storing copied))) :
    param ∈ call.params ∧ store = storing copied param := by
  have pairs : call.params.zip (call.params.map (storing copied)) =
      call.params.map fun param => (param, storing copied param) := by
    rw [List.zip_map_right, List.zip_eq_zipWith, List.zipWith_self, List.map_map]
    rfl
  rw [pairs, List.mem_map] at paired
  obtain ⟨same, known, both⟩ := paired
  rw [Prod.mk.injEq] at both
  obtain ⟨rfl, rfl⟩ := both
  exact ⟨known, rfl⟩

private theorem waits_of_mem_path {small waits : Bool} {id : String} {withData : Bool}
    (member : .commit waits id withData ∈ path small (ofCall settings call).blocks) :
    waits = (!copies call small && ClientCode.waits call) := by
  have found : .commit waits id withData ∈
      (path small (ofCall settings call).blocks).filter Statement.isCommit :=
    List.mem_filter.mpr ⟨member, rfl⟩
  rw [filter_isCommit_path, List.mem_singleton, commitOf, Statement.commit.injEq] at found
  exact found.1

theorem safePath_ofCall (small : Bool) :
    SafePath call (path small (ofCall settings call).blocks) := by
  have stores := filter_isStore_path settings call small
  constructor
  case stores =>
    rw [stores, List.forall₂_map_right_iff]
    refine List.forall₂_same.mpr fun param _ => ?_
    rw [storing]
    split
    · exact .inr rfl
    · exact .inl rfl
  case one_commit => exact ⟨_, _, _, filter_isCommit_path settings call small⟩
  case commit_last =>
    exact fun before waits id withData after split =>
      filter_isStore_after_commit settings call split
  case waits =>
    intro waits id withData member reason
    rw [waits_of_mem_path settings call member]
    rcases reason with ⟨param, paired, pointer⟩ | returns
    · rw [stores] at paired
      obtain ⟨known, store⟩ := mem_zip_storing call paired
      have whole : copies call small = false := by
        cases copied : copies call small with
        | false => rfl
        | true => simp [storing, copied, pointer] at store
      simp [whole, waits_of_isPointer call known pointer]
    · simp [copies_of_returnsValue call returns, ClientCode.waits, returns]
  case asynchronous =>
    intro id withData member
    have mode := waits_of_mem_path settings call member
    constructor
    · by_contra result
      have returns : call.returnsValue = true := by simpa [Call.returnsValue] using result
      simp [copies_of_returnsValue call returns, ClientCode.waits, returns] at mode
    · intro param store paired pointer
      rw [stores] at paired
      obtain ⟨known, rfl⟩ := mem_zip_storing call paired
      have copied : copies call small = true := by
        simpa [waits_of_isPointer call known pointer] using mode
      simp [storing, copied, pointer]

end Safety

/--
No asynchronous commit carries the caller's memory or leaves a result behind: whatever
the parameters, flags and result of a call, both paths of its client function are safe.
-/
theorem every_path_safe (settings : Settings) (call : Call)
    (generated : call.handcoded = false) :
    ∃ code, Written settings call code ∧
      (∀ limit small large, .ifBelow limit small large ∈ code.blocks →
        limit = settings.inlineThreshold.toNat) ∧
      ∀ small, SafePath call (path small code.blocks) :=
  ⟨ofCall settings call, written_ofCall settings generated, tested_ofCall settings call,
    safePath_ofCall settings call⟩

theorem every_path_safe_upload :
    let call : Call :=
      { name := "Upload"
        params :=
          [ { base := .uint 32, name := "data_length" },
            { base := .uint 8, pointers := 1, isConst := true, name := "data" },
            { base := .float 32, name := "scale" } ] }
    call.handcoded = false ∧
      ∃ code, Written {} call code ∧
        (∀ limit small large, .ifBelow limit small large ∈ code.blocks → limit = 1024) ∧
        ∀ small, SafePath call (path small code.blocks) :=
  ⟨rfl, every_path_safe {} _ rfl⟩

end CommandProtocol.ClientCode
