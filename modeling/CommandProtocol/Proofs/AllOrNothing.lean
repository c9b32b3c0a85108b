import CommandProtocol.Proofs.FileTree
import CommandProtocol.Run

/-!
# All or nothing

A request asks for the selector, the spec and the output, one after the other, and the
output is written last.  So it ends with its first fault and the files as they were, or
with one file replaced, even if the output is the selector file or the spec itself.

Paths are followed from the working directory, which is the root of the tree.
-/

namespace CommandProtocol

/-! ## Disks -/

/--
A file system that holds a tree, and a standard input.  They may refuse what is asked for,
for want of rights or room, but what is read is there, and a write replaces one file.
-/
structure Disk where
  read : FileTree → String → Except IoError ByteArray
  write : FileTree → String → ByteArray → Except IoError FileTree
  input : ByteArray → Except IoError ByteArray
  read_sound : ∀ {tree path contents}, read tree path = .ok contents →
    tree.read path = .ok contents
  write_sound : ∀ {tree path contents after}, write tree path contents = .ok after →
    tree.Replaced after path contents
  input_sound : ∀ {bytes contents}, input bytes = .ok contents → contents = bytes

namespace Disk

def plain : Disk where
  read := FileTree.read
  write := FileTree.write
  input := .ok
  read_sound := id
  write_sound := FileTree.replaced_of_write
  input_sound read := (Except.ok.inj read).symm

def host (disk : Disk) : Host (StateM Desk) where
  readFile path := ExceptT.mk do return disk.read (← get).tree path
  writeFile path contents := ExceptT.mk do
    let desk ← get
    match disk.write desk.tree path contents with
    | .error error => return .error error
    | .ok tree =>
        set { desk with tree }
        return .ok ()
  readInput := ExceptT.mk do return disk.input (← get).input
  print := Desk.host.print
  report := Desk.host.report

private theorem host_plain : plain.host = Desk.host := rfl

def spec (disk : Disk) (desk : Desk) : Option String → Except IoError ByteArray
  | some path => disk.read desk.tree path
  | none => disk.input desk.input

end Disk

/-! ## Selectors -/

private theorem Artifact.ofSelector_cases (byte : UInt8) :
    (∃ artifact, ofSelector byte = .ok artifact ∧ byte.toNat = artifact.selector.toNat) ∨
      ofSelector byte = .error (.unknown (Char.ofNat byte.toNat)) ∧
        ∀ artifact : Artifact, byte.toNat ≠ artifact.selector.toNat := by
  have code : (Char.ofNat byte.toNat).toNat = byte.toNat := by
    have valid : byte.toNat.isValidChar := .inl (Nat.lt_trans byte.toNat_lt (by decide))
    rw [Char.ofNat, dif_pos valid]
    rfl
  have shown (artifact : Artifact) (char : Char.ofNat byte.toNat = artifact.selector) :
      byte.toNat = artifact.selector.toNat := by
    rw [← code, char]
  unfold ofSelector
  split
  · next char => exact .inl ⟨.structsHeader, rfl, shown .structsHeader char⟩
  · next char => exact .inl ⟨.declarationHeader, rfl, shown .declarationHeader char⟩
  · next char => exact .inl ⟨.clientSource, rfl, shown .clientSource char⟩
  · next char => exact .inl ⟨.playbackSource, rfl, shown .playbackSource char⟩
  · next not_structs not_declaration not_client not_playback =>
      refine .inr ⟨rfl, fun artifact same => ?_⟩
      have char : Char.ofNat byte.toNat = artifact.selector := Char.toNat_inj.mp (code.trans same)
      cases artifact with
      | structsHeader => exact not_structs char
      | declarationHeader => exact not_declaration char
      | clientSource => exact not_client char
      | playbackSource => exact not_playback char

private theorem Artifact.selector_inj {artifact other : Artifact}
    (same : artifact.selector.toNat = other.selector.toNat) : artifact = other := by
  revert same
  cases artifact <;> cases other <;> decide

/-! ## How a request ends -/

namespace Request

/-- What a request needs, in the order in which it is asked for. -/
inductive Stage where
  | selectorFile
  | selectorByte
  | specFile
  | specText
  | outputFile
  deriving DecidableEq, Repr

def Stage.rank : Stage → Nat
  | .selectorFile => 0
  | .selectorByte => 1
  | .specFile => 2
  | .specText => 3
  | .outputFile => 4

theorem Stage.rank_inj {stage other : Stage} (same : stage.rank = other.rank) : stage = other := by
  revert same
  cases stage <;> cases other <;> decide

section Ends

variable (disk : Disk) (desk : Desk) (request : Request)

def Selects (artifact : Artifact) : Prop :=
  ∃ contents byte, disk.read desk.tree request.selector = .ok contents ∧
    contents.data[0]? = some byte ∧ byte.toNat = artifact.selector.toNat

/-- The faults of a request in the files as they are, each whatever the others. -/
inductive Fault : Stage → Failure → Prop
  | selectorFile {error : IoError} :
      disk.read desk.tree request.selector = .error error → Fault .selectorFile (.io error)
  | emptySelector :
      disk.read desk.tree request.selector = .ok .empty →
      Fault .selectorByte (.selector .empty)
  | unknownSelector {contents : ByteArray} {byte : UInt8} :
      disk.read desk.tree request.selector = .ok contents → contents.data[0]? = some byte →
      (∀ artifact : Artifact, byte.toNat ≠ artifact.selector.toNat) →
      Fault .selectorByte (.selector (.unknown (Char.ofNat byte.toNat)))
  | specFile {error : IoError} :
      disk.spec desk request.spec = .error error → Fault .specFile (.io error)
  | specEncoding {contents : ByteArray} :
      disk.spec desk request.spec = .ok contents → ¬ contents.IsValidUTF8 →
      Fault .specFile (.io .invalidText)
  | specText {text : String} {fault : SpecError} :
      disk.spec desk request.spec = .ok text.toUTF8 → Spec.parse text = .error fault →
      Fault .specText (.spec fault)
  | outputFile {artifact : Artifact} {text : String} {table : CallTable} {error : IoError} :
      Selects disk desk request artifact → disk.spec desk request.spec = .ok text.toUTF8 →
      Spec.parse text = .ok table →
      disk.write desk.tree request.output (artifact.render request.settings table).toUTF8 =
        .error error →
      Fault .outputFile (.io error)

def Clear (count : Nat) : Prop :=
  ∀ stage failure, stage.rank < count → ¬ Fault disk desk request stage failure

/-- A fault at a stage before which there is none. -/
def FirstFault (stage : Stage) (failure : Failure) : Prop :=
  Fault disk desk request stage failure ∧ Clear disk desk request stage.rank

/-- The output holds what selector and spec asked for before it was written. -/
def Fulfilled (artifact : Artifact) (after : FileTree) : Prop :=
  ∃ text table, Selects disk desk request artifact ∧
    disk.spec desk request.spec = .ok text.toUTF8 ∧ Spec.parse text = .ok table ∧
    desk.tree.Replaced after request.output (artifact.render request.settings table).toUTF8

/-- The result of a request, and the tree that it leaves. -/
inductive Ends : Except Failure Artifact → FileTree → Prop
  | failed {stage : Stage} {failure : Failure} :
      FirstFault disk desk request stage failure → Ends (.error failure) desk.tree
  | fulfilled {artifact : Artifact} {after : FileTree} :
      (∀ stage failure, ¬ Fault disk desk request stage failure) →
      Fulfilled disk desk request artifact after → Ends (.ok artifact) after

end Ends

/-! ## Stages that are passed -/

section Passed

variable {disk : Disk} {desk : Desk} {request : Request} {artifact : Artifact}
  {contents : ByteArray} {text : String} {table : CallTable} {failure : Failure}

theorem Selects.unique {other : Artifact} (first : Selects disk desk request artifact)
    (second : Selects disk desk request other) : artifact = other := by
  obtain ⟨contents, byte, read, head, code⟩ := first
  obtain ⟨contents', byte', read', head', code'⟩ := second
  cases read.symm.trans read'
  cases head.symm.trans head'
  exact Artifact.selector_inj (code.symm.trans code')

theorem text_unique {other : String} (first : disk.spec desk request.spec = .ok text.toUTF8)
    (second : disk.spec desk request.spec = .ok other.toUTF8) : text = other :=
  String.toByteArray_inj.mp (Except.ok.inj (first.symm.trans second))

theorem not_fault_selectorFile (read : disk.read desk.tree request.selector = .ok contents) :
    ¬ Fault disk desk request .selectorFile failure := by
  intro fault
  cases fault with
  | selectorFile unread =>
      rw [read] at unread
      contradiction

theorem not_fault_selectorByte (selects : Selects disk desk request artifact) :
    ¬ Fault disk desk request .selectorByte failure := by
  obtain ⟨contents, byte, read, head, code⟩ := selects
  intro fault
  cases fault with
  | emptySelector empty =>
      cases read.symm.trans empty
      contradiction
  | unknownSelector other first unknown =>
      cases read.symm.trans other
      cases head.symm.trans first
      exact unknown artifact code

theorem not_fault_specFile (spec : disk.spec desk request.spec = .ok text.toUTF8) :
    ¬ Fault disk desk request .specFile failure := by
  intro fault
  cases fault with
  | specFile unread =>
      rw [spec] at unread
      contradiction
  | specEncoding read invalid =>
      cases spec.symm.trans read
      exact invalid text.isValidUTF8

theorem not_fault_specText (spec : disk.spec desk request.spec = .ok text.toUTF8)
    (parsed : Spec.parse text = .ok table) : ¬ Fault disk desk request .specText failure := by
  intro fault
  cases fault with
  | specText other malformed =>
      rw [text_unique spec other, malformed] at parsed
      contradiction

theorem not_fault_outputFile {after : FileTree} (selects : Selects disk desk request artifact)
    (spec : disk.spec desk request.spec = .ok text.toUTF8) (parsed : Spec.parse text = .ok table)
    (written : disk.write desk.tree request.output
      (artifact.render request.settings table).toUTF8 = .ok after) :
    ¬ Fault disk desk request .outputFile failure := by
  intro fault
  cases fault with
  | outputFile selects_other spec_other parsed_other refused =>
      rw [text_unique spec spec_other] at parsed
      cases parsed.symm.trans parsed_other
      rw [selects_other.unique selects, written] at refused
      contradiction

theorem Clear.next (stage : Stage) (clear : Clear disk desk request stage.rank)
    (passed : ∀ failure, ¬ Fault disk desk request stage failure) :
    Clear disk desk request (stage.rank + 1) := by
  intro other failure before
  rcases Nat.lt_succ_iff_lt_or_eq.mp before with earlier | same
  · exact clear other failure earlier
  · rw [Stage.rank_inj same]
    exact passed failure

theorem Clear.all (clear : Clear disk desk request 5) (stage : Stage) (failure : Failure) :
    ¬ Fault disk desk request stage failure :=
  clear stage failure (by cases stage <;> decide)

end Passed

end Request

/-! ## Actions on a desk -/

/-- From every desk with these files and this input, the result and the files afterwards. -/
def Leads {α : Type} (action : ExceptT Failure (StateM Desk) α) (before : Desk)
    (result : Except Failure α) (tree : FileTree) : Prop :=
  ∀ desk : Desk, desk.tree = before.tree → desk.input = before.input →
    ∃ after, action.run.run desk = (result, after) ∧ after.tree = tree ∧
      after.input = before.input

def Quiet (log : Log.Event → StateM Desk Unit) : Prop :=
  ∀ event desk, ((log event).run desk).2.tree = desk.tree ∧
    ((log event).run desk).2.input = desk.input

section Actions

variable {α β : Type} {before : Desk} {action : ExceptT Failure (StateM Desk) α}
  {next : α → ExceptT Failure (StateM Desk) β} {tree : FileTree}
  {log : Log.Event → StateM Desk Unit}

theorem Leads.bind_error {failure : Failure} (first : Leads action before (.error failure) tree) :
    Leads (action >>= next) before (.error failure) tree := by
  intro desk files input
  obtain ⟨after, ran, rest⟩ := first desk files input
  refine ⟨after, ?_, rest⟩
  rw [ExceptT.run_bind, StateT.run_bind, ran]
  rfl

theorem Leads.bind {value : α} {result : Except Failure β} {final : FileTree}
    (first : Leads action before (.ok value) tree)
    (second : Leads (next value) { before with tree } result final) :
    Leads (action >>= next) before result final := by
  intro desk files input
  obtain ⟨after, ran, files_after, input_after⟩ := first desk files input
  obtain ⟨last, ran_last, rest⟩ := second after files_after input_after
  refine ⟨last, ?_, rest⟩
  rw [ExceptT.run_bind, StateT.run_bind, ran]
  exact ran_last

theorem leads_result {outcome result : Except Failure α} (same : outcome = result) :
    Leads (ExceptT.mk (pure outcome)) before result before.tree :=
  fun desk files input => ⟨desk, by rw [same]; rfl, files, input⟩

theorem leads_log (quiet : Quiet log) (before : Desk) (event : Log.Event) :
    Leads (log event : ExceptT Failure (StateM Desk) Unit) before (.ok ()) before.tree := by
  intro desk files input
  obtain ⟨files_after, input_after⟩ := quiet event desk
  exact ⟨((log event).run desk).2, rfl, files_after.trans files, input_after.trans input⟩

private theorem quiet_logAll (quiet : Quiet log) (events : List Log.Event) (desk : Desk) :
    ((logAll log events).run desk).2.tree = desk.tree ∧
      ((logAll log events).run desk).2.input = desk.input := by
  induction events generalizing desk with
  | nil => exact ⟨rfl, rfl⟩
  | cons event rest ih =>
      obtain ⟨files, input⟩ := quiet event desk
      obtain ⟨files_rest, input_rest⟩ := ih ((log event).run desk).2
      exact ⟨files_rest.trans files, input_rest.trans input⟩

theorem leads_logAll (quiet : Quiet log) (before : Desk) (events : List Log.Event) :
    Leads (ExceptT.lift (logAll log events)) before (.ok ()) before.tree := by
  intro desk files input
  obtain ⟨files_after, input_after⟩ := quiet_logAll quiet events desk
  exact ⟨((logAll log events).run desk).2, rfl, files_after.trans files, input_after.trans input⟩

end Actions

namespace Disk

variable (disk : Disk) {before : Desk}

theorem leads_readFile (path : String) :
    Leads ((disk.host.readFile path).adapt Failure.io) before
      ((disk.read before.tree path).mapError .io) before.tree := by
  intro desk files input
  refine ⟨desk, ?_, files, input⟩
  rw [← files]
  rfl

theorem leads_readInput :
    Leads (disk.host.readInput.adapt Failure.io) before
      ((disk.input before.input).mapError .io) before.tree := by
  intro desk files input
  refine ⟨desk, ?_, files, input⟩
  rw [← input]
  rfl

private theorem leads_unread {source : Option String} {error : IoError}
    (unread : disk.spec before source = .error error) :
    Leads (disk.host.readSpec source) before (.error (.io error)) before.tree := by
  cases source with
  | none =>
      have standard : Leads _ before _ before.tree := disk.leads_readInput
      rw [spec] at unread
      rw [unread] at standard
      exact standard.bind_error
  | some path =>
      have file : Leads _ before _ before.tree := disk.leads_readFile path
      rw [spec] at unread
      rw [unread] at file
      exact file.bind_error

private theorem leads_readSpec {source : Option String} {contents : ByteArray}
    (read : disk.spec before source = .ok contents) :
    Leads (disk.host.readSpec source) before
      (match String.fromUTF8? contents with
        | some text => .ok text
        | none => .error (.io .invalidText)) before.tree := by
  have decoding : Leads (match String.fromUTF8? contents with
      | some text => pure text
      | none => throw (Failure.io IoError.invalidText)) before
      (match String.fromUTF8? contents with
        | some text => .ok text
        | none => .error (.io .invalidText)) before.tree := by
    cases String.fromUTF8? contents with
    | none => exact leads_result rfl
    | some text => exact leads_result rfl
  cases source with
  | none =>
      have standard : Leads _ before _ before.tree := disk.leads_readInput
      rw [spec] at read
      rw [read] at standard
      exact standard.bind decoding
  | some path =>
      have file : Leads _ before _ before.tree := disk.leads_readFile path
      rw [spec] at read
      rw [read] at file
      exact file.bind decoding

theorem run_writeFile (path : String) (contents : ByteArray) (desk : Desk) :
    (disk.host.writeFile path contents).run.run desk =
      match disk.write desk.tree path contents with
      | .error error => (.error error, desk)
      | .ok tree => (.ok (), { desk with tree }) := by
  cases written : disk.write desk.tree path contents with
  | error error =>
      simp only [Disk.host, ExceptT.run_mk, StateT.run_bind, StateT.run_get, pure_bind, written]
      rfl
  | ok tree =>
      simp only [Disk.host, ExceptT.run_mk, StateT.run_bind, StateT.run_get, pure_bind, written]
      rfl

private theorem leads_refused {disk : Disk} {path : String} {contents : ByteArray} {error : IoError}
    (refused : disk.write before.tree path contents = .error error) :
    Leads ((disk.host.writeFile path contents).adapt Failure.io) before (.error (.io error))
      before.tree := by
  intro desk files input
  have ran := disk.run_writeFile path contents desk
  rw [files, refused] at ran
  refine ⟨desk, ?_, files, input⟩
  exact congrArg (fun ran => (ran.1.mapError Failure.io, ran.2)) ran

private theorem leads_written {disk : Disk} {path : String} {contents : ByteArray} {tree : FileTree}
    (written : disk.write before.tree path contents = .ok tree) :
    Leads ((disk.host.writeFile path contents).adapt Failure.io) before (.ok ()) tree := by
  intro desk files input
  have ran := disk.run_writeFile path contents desk
  rw [files, written] at ran
  refine ⟨{ desk with tree }, ?_, rfl, input⟩
  exact congrArg (fun ran => (ran.1.mapError Failure.io, ran.2)) ran

end Disk

/-! ## Running a request -/

private theorem eq_toUTF8_of_fromUTF8? {contents : ByteArray} {text : String}
    (decoded : String.fromUTF8? contents = some text) : contents = text.toUTF8 := by
  unfold String.fromUTF8? at decoded
  split at decoded
  · cases decoded
    rfl
  · contradiction

private theorem not_isValidUTF8_of_fromUTF8? {contents : ByteArray}
    (undecoded : String.fromUTF8? contents = none) : ¬ contents.IsValidUTF8 := by
  unfold String.fromUTF8? at undecoded
  split at undecoded
  · contradiction
  · assumption

namespace Request

variable {disk : Disk} {log : Log.Event → StateM Desk Unit}

private theorem readSelector_cases (disk : Disk) (desk : Desk) (request : Request) :
    (∃ failure, Leads (disk.host.readSelector request.selector) desk (.error failure) desk.tree ∧
        ∃ stage, FirstFault disk desk request stage failure) ∨
      ∃ artifact, Leads (disk.host.readSelector request.selector) desk (.ok artifact) desk.tree ∧
        Selects disk desk request artifact ∧ Clear disk desk request 2 := by
  have start : Clear disk desk request 0 := fun _ _ before => absurd before (Nat.not_lt_zero _)
  have file : Leads _ desk _ desk.tree := disk.leads_readFile request.selector
  unfold Host.readSelector
  cases read : disk.read desk.tree request.selector with
  | error error =>
      rw [read] at file
      exact .inl ⟨.io error, file.bind_error, .selectorFile, .selectorFile read, start⟩
  | ok contents =>
      rw [read] at file
      have clear : Clear disk desk request 1 :=
        Clear.next .selectorFile start fun _ => not_fault_selectorFile read
      cases head : contents.data[0]? with
      | none =>
          have empty : contents = .empty :=
            ByteArray.ext (Array.eq_empty_of_size_eq_zero
              (Nat.le_zero.mp (Array.getElem?_eq_none_iff.mp head)))
          refine .inl ⟨.selector .empty, file.bind (leads_result ?_), .selectorByte,
            .emptySelector ?_, clear⟩
          · rw [Artifact.ofSelectorFile, head]
            rfl
          · rw [read, empty]
      | some byte =>
          rcases Artifact.ofSelector_cases byte with ⟨artifact, selected, code⟩ | ⟨unknown, code⟩
          · have selects : Selects disk desk request artifact := ⟨contents, byte, read, head, code⟩
            have clear : Clear disk desk request 2 :=
              Clear.next .selectorByte clear fun _ => not_fault_selectorByte selects
            refine .inr ⟨artifact, file.bind (leads_result ?_), selects, clear⟩
            simp only [Artifact.ofSelectorFile, head, selected]
            rfl
          · refine .inl ⟨_, file.bind (leads_result ?_), .selectorByte,
              .unknownSelector read head code, clear⟩
            simp only [Artifact.ofSelectorFile, head, unknown]
            rfl

private theorem readSpec_cases (disk : Disk) (desk : Desk) (request : Request) :
    (∃ failure, Leads (disk.host.readSpec request.spec) desk (.error failure) desk.tree ∧
        Fault disk desk request .specFile failure) ∨
      ∃ text, Leads (disk.host.readSpec request.spec) desk (.ok text) desk.tree ∧
        disk.spec desk request.spec = .ok text.toUTF8 := by
  cases read : disk.spec desk request.spec with
  | error error =>
      exact .inl ⟨.io error, disk.leads_unread read, .specFile read⟩
  | ok contents =>
      have decoding := disk.leads_readSpec read
      cases decoded : String.fromUTF8? contents with
      | none =>
          rw [decoded] at decoding
          exact .inl ⟨.io .invalidText, decoding,
            .specEncoding read (not_isValidUTF8_of_fromUTF8? decoded)⟩
      | some text =>
          rw [decoded] at decoding
          refine .inr ⟨text, decoding, ?_⟩
          rw [eq_toUTF8_of_fromUTF8? decoded]

private theorem exists_outcome (disk : Disk) (desk : Desk) (request : Request) :
    ∃ outcome tree, Ends disk desk request outcome tree ∧
      ∀ log, Quiet log → Leads (generate disk.host log request) desk outcome tree := by
  unfold generate
  -- One stage after the other: where one fails, the actions behind it are not run.
  rcases readSelector_cases disk desk request with
    ⟨failure, selector, stage, first⟩ | ⟨artifact, selector, selects, clear⟩
  · exact ⟨_, _, .failed first, fun _ _ => selector.bind_error⟩
  have selected {log} (quiet : Quiet log) := leads_log quiet desk (.selected artifact)
  rcases readSpec_cases disk desk request with ⟨failure, spec, fault⟩ | ⟨text, spec, bytes⟩
  · exact ⟨_, _, .failed ⟨fault, clear⟩, fun _ quiet =>
      selector.bind ((selected quiet).bind spec.bind_error)⟩
  have clear : Clear disk desk request 3 :=
    Clear.next .specFile clear fun _ => not_fault_specFile bytes
  have reading {log} (quiet : Quiet log) := leads_logAll quiet desk (specEvents text)
  cases parsed : Spec.parse text with
  | error fault =>
      have parsing : Leads _ desk _ desk.tree :=
        leads_result (congrArg (Except.mapError Failure.spec) parsed)
      exact ⟨_, _, .failed ⟨.specText bytes parsed, clear⟩, fun _ quiet =>
        selector.bind ((selected quiet).bind (spec.bind ((reading quiet).bind
          parsing.bind_error)))⟩
  | ok table =>
      have parsing : Leads _ desk _ desk.tree :=
        leads_result (congrArg (Except.mapError Failure.spec) parsed)
      have clear : Clear disk desk request 4 :=
        Clear.next .specText clear fun _ => not_fault_specText bytes parsed
      have rendering {log} (quiet : Quiet log) :=
        leads_logAll quiet desk (renderEvents table artifact)
      cases written : disk.write desk.tree request.output
          (artifact.render request.settings table).toUTF8 with
      | error error =>
          have refused := Disk.leads_refused written
          exact ⟨_, _, .failed ⟨.outputFile selects bytes parsed written, clear⟩, fun _ quiet =>
            selector.bind ((selected quiet).bind (spec.bind ((reading quiet).bind (parsing.bind
              ((rendering quiet).bind refused.bind_error)))))⟩
      | ok tree =>
          have clear : Clear disk desk request 5 :=
            Clear.next .outputFile clear fun _ => not_fault_outputFile selects bytes parsed written
          have writing := Disk.leads_written written
          have generated {log} (quiet : Quiet log) :=
            leads_log quiet { desk with tree } (.generated artifact request.output)
          exact ⟨_, _, .fulfilled clear.all
            ⟨text, table, selects, bytes, parsed, disk.write_sound written⟩, fun _ quiet =>
            selector.bind ((selected quiet).bind (spec.bind ((reading quiet).bind (parsing.bind
              ((rendering quiet).bind (writing.bind ((generated quiet).bind
                (leads_result rfl))))))))⟩

/-! ## Exit codes -/

/-- What an exit code says about the files as they were. -/
structure ExitCode (disk : Disk) (desk : Desk) (request : Request) (code : UInt32) : Prop where
  success : code = 0 ↔ ∀ stage failure, ¬ Fault disk desk request stage failure
  selector : code = 2 ↔ ∃ failure, FirstFault disk desk request .selectorByte failure
  failure : code = 1 ↔
    ∃ stage failure, stage ≠ .selectorByte ∧ FirstFault disk desk request stage failure

section Exit

variable {desk : Desk} {request : Request} {stage other : Stage} {failure : Failure}

theorem FirstFault.unique {failure' : Failure} (first : FirstFault disk desk request stage failure)
    (second : FirstFault disk desk request other failure') : stage = other := by
  rcases Nat.lt_trichotomy stage.rank other.rank with before | same | after
  · exact absurd first.1 (second.2 stage failure before)
  · exact Stage.rank_inj same
  · exact absurd second.1 (first.2 other failure' after)

theorem Fault.exitCode (fault : Fault disk desk request stage failure) :
    failure.exitCode = if stage = .selectorByte then 2 else 1 := by
  cases fault <;> rfl

def exitStatus : Except Failure Artifact → UInt32
  | .ok _ => 0
  | .error failure => failure.exitCode

theorem Ends.exitCode {outcome : Except Failure Artifact} {tree : FileTree}
    (ends : Ends disk desk request outcome tree) :
    ExitCode disk desk request (exitStatus outcome) := by
  cases ends with
  | fulfilled clear =>
      have absent (stage : Stage) (failure : Failure) :
          ¬ FirstFault disk desk request stage failure := fun first => clear stage failure first.1
      rw [exitStatus]
      exact ⟨iff_of_true rfl clear,
        iff_of_false (by decide) fun ⟨failure, first⟩ => absent .selectorByte failure first,
        iff_of_false (by decide) fun ⟨stage, failure, _, first⟩ => absent stage failure first⟩
  | @failed stage failure first =>
      have code : failure.exitCode = _ := first.1.exitCode
      have faulty : ¬ ∀ stage failure, ¬ Fault disk desk request stage failure :=
        fun clear => clear stage failure first.1
      have elsewhere {other : Stage} {failure' : Failure}
          (second : FirstFault disk desk request other failure') : other = stage :=
        second.unique first
      by_cases decoding : stage = .selectorByte
      · rw [if_pos decoding] at code
        subst decoding
        rw [exitStatus, code]
        exact ⟨iff_of_false (by decide) faulty, iff_of_true rfl ⟨failure, first⟩,
          iff_of_false (by decide) fun ⟨_, _, other, second⟩ => other (elsewhere second)⟩
      · rw [if_neg decoding] at code
        rw [exitStatus, code]
        exact ⟨iff_of_false (by decide) faulty,
          iff_of_false (by decide) fun ⟨_, second⟩ => decoding (elsewhere second).symm,
          iff_of_true rfl ⟨stage, failure, decoding, first⟩⟩

end Exit

def reporting (host : Host (StateM Desk)) (filter : Log.Filter) (event : Log.Event) :
    StateM Desk Unit :=
  if filter.shows event then host.report (event.line ++ "\n") else pure ()

theorem quiet_reporting (disk : Disk) (filter : Log.Filter) :
    Quiet (reporting disk.host filter) := by
  intro event desk
  unfold reporting
  split
  · exact ⟨rfl, rfl⟩
  · exact ⟨rfl, rfl⟩

private theorem run_runOptions (filter : Log.Filter) (options : CommandLine.Options) (desk : Desk)
    {outcome : Except Failure Artifact} {generated : Desk}
    (ran : (generate disk.host (reporting disk.host filter) options.request).run.run desk =
      (outcome, generated)) :
    ((runOptions disk.host filter options).run desk).1 = exitStatus outcome ∧
      ((runOptions disk.host filter options).run desk).2.tree = generated.tree := by
  have logged : (generate disk.host (fun event => if filter.shows event then
      disk.host.report (event.line ++ "\n") else pure ()) options.request).run.run desk =
      (outcome, generated) := ran
  dsimp only [runOptions]
  rw [StateT.run_bind, logged]
  cases outcome with
  | error failure =>
      obtain ⟨files, -⟩ := quiet_reporting disk filter (.failed failure) generated
      exact ⟨rfl, files⟩
  | ok artifact =>
      cases options.verbose with
      | false => exact ⟨rfl, rfl⟩
      | true => exact ⟨rfl, rfl⟩

/--
A request that fails leaves the files as they were and reports its first fault; one that
succeeds replaces the output alone, by what the selector and the spec said before.
-/
theorem generate_all_or_nothing (disk : Disk) (desk : Desk) (request : Request) :
    ∃ outcome tree, Ends disk desk request outcome tree ∧
      (∀ log, Quiet log → ∃ after,
        (generate disk.host log request).run.run desk = (outcome, after) ∧ after.tree = tree) ∧
      ∀ arguments logFilter options, CommandLine.parse arguments = .ok options →
        options.request = request → ∃ code after,
          (run disk.host arguments logFilter).run desk = (code, after) ∧ after.tree = tree ∧
            ExitCode disk desk request code := by
  obtain ⟨outcome, tree, ends, leads⟩ := exists_outcome disk desk request
  refine ⟨outcome, tree, ends, fun log quiet => ?_, ?_⟩
  · obtain ⟨after, ran, files, -⟩ := leads log quiet desk rfl rfl
    exact ⟨after, ran, files⟩
  · rintro arguments logFilter options parsed rfl
    let filter := Log.Filter.choose logFilter options.verbose
    obtain ⟨generated, ran, files, -⟩ := leads _ (quiet_reporting disk filter) desk rfl rfl
    obtain ⟨code, kept⟩ := run_runOptions filter options desk ran
    have whole : run disk.host arguments logFilter = runOptions disk.host filter options := by
      rw [run, parsed]
    rw [whole]
    exact ⟨_, _, rfl, kept.trans files, code ▸ ends.exitCode⟩

def requestTo (output : String) : Request := { selector := "c", output }

def letterDesk : Desk where
  tree := { nodes := [(["c"], .file "2\n".toUTF8)] }
  input := "A \x7b\n\x7d\n".toUTF8

theorem ofString?_letter {text : String} (letter : text = "c" ∨ text = "d") :
    Path.ofString? text = .ok ⟨[text], false⟩ := by
  have parts : text.splitOn "/" = [text] := by
    rcases letter with rfl | rfl <;>
      rw [String.splitOn, if_neg (by decide), String.splitOnAux, if_neg (by decide),
        if_neg (by decide), String.splitOnAux, if_pos (by decide)] <;> decide
  have file : text.endsWith "/" = false := by
    rcases letter with rfl | rfl <;> decide +kernel
  have valid : ¬ text.toList.contains '\x00' ∧ ¬ Path.sizeLimit ≤ text.utf8ByteSize ∧
      text ≠ "" := by
    rcases letter with rfl | rfl <;> decide
  rw [Path.ofString?, if_neg valid.1, if_neg valid.2.1, parts, file]
  simp [valid.2.2]

theorem generate_all_or_nothing_aliased :
    let rendered := (Artifact.clientSource.render {} ⟨[{ name := "A" }], by simp⟩).toUTF8
    (∃ after, (generate Desk.host (fun _ => pure ()) (requestTo "c")).run.run letterDesk =
        (.ok .clientSource, after) ∧ after.tree.read "c" = .ok rendered) ∧
      ((run Desk.host ["c", "c"] none).run letterDesk).1 = 0 ∧
      (∃ after, (generate Desk.host (fun _ => pure ()) (requestTo "d")).run.run letterDesk =
        (.ok .clientSource, after) ∧ after.tree.read "d" = .ok rendered ∧
          after.tree.read "c" = .ok "2\n".toUTF8) ∧
      ((run Desk.host ["c", "d"] none).run letterDesk).1 = 0 := by
  intro rendered
  have read : letterDesk.tree.read "c" = .ok "2\n".toUTF8 :=
    FileTree.read_eq_ok (ofString?_letter (.inl rfl)) rfl rfl rfl
  have parsed : Spec.parse "A \x7b\n\x7d\n" = .ok ⟨[{ name := "A" }], by simp⟩ := rfl
  have generated_to (output : String) (letter : output = "c" ∨ output = "d") :
      ∃ after, (generate Desk.host (fun _ => pure ()) (requestTo output)).run.run letterDesk =
          (.ok .clientSource, after) ∧ letterDesk.tree.Replaced after.tree output rendered ∧
        ((run Desk.host ["c", output] none).run letterDesk).1 = 0 := by
    have bytes : Disk.plain.spec letterDesk (requestTo output).spec =
        .ok "A \x7b\n\x7d\n".toUTF8 := rfl
    have selects : Selects .plain letterDesk (requestTo output) .clientSource :=
      ⟨_, '2'.toNat.toUInt8, read, rfl, rfl⟩
    obtain ⟨options, accepted, request⟩ : ∃ options,
        CommandLine.parse ["c", output] = .ok options ∧ options.request = requestTo output := by
      rcases letter with rfl | rfl <;> exact ⟨_, rfl, rfl⟩
    have clear (stage : Stage) (failure : Failure) :
        ¬ Fault .plain letterDesk (requestTo output) stage failure := by
      cases stage with
      | selectorFile => exact not_fault_selectorFile read
      | selectorByte => exact not_fault_selectorByte selects
      | specFile => exact not_fault_specFile bytes
      | specText => exact not_fault_specText bytes parsed
      | outputFile =>
          have written (contents : ByteArray) :
              ∃ after, letterDesk.tree.write output contents = .ok after := by
            rw [FileTree.write, ofString?_letter letter]
            rcases letter with rfl | rfl <;> exact ⟨_, rfl⟩
          obtain ⟨after, done⟩ := written _
          exact not_fault_outputFile selects bytes parsed done
    obtain ⟨outcome, tree, ends, generated, exits⟩ :=
      generate_all_or_nothing .plain letterDesk (requestTo output)
    cases ends with
    | failed first => exact absurd first.1 (clear _ _)
    | fulfilled _ done =>
        obtain ⟨text, table, chosen, source, known, replaced⟩ := done
        cases chosen.unique selects
        cases text_unique source bytes
        cases known.symm.trans parsed
        obtain ⟨after, ran, rfl⟩ := generated (fun _ => pure ()) fun _ _ => ⟨rfl, rfl⟩
        obtain ⟨code, last, finished, -, exit⟩ := exits ["c", output] none options accepted request
        refine ⟨after, ran, replaced, ?_⟩
        rw [Disk.host_plain] at finished
        rw [finished]
        exact exit.success.mpr clear
  obtain ⟨same, ran_same, replaced_same, code_same⟩ := generated_to "c" (.inl rfl)
  obtain ⟨after, ran, replaced, code⟩ := generated_to "d" (.inr rfl)
  refine ⟨⟨same, ran_same, replaced_same.read⟩, code_same,
    ⟨after, ran, replaced.read, ?_⟩, code⟩
  obtain ⟨place, led, -, -, others⟩ := replaced.place
  rw [FileTree.place?, ofString?_letter (.inr rfl)] at led
  cases led
  have kept : after.tree.node? ["c"] = some (.file "2\n".toUTF8) := others ["c"] (by decide)
  exact FileTree.read_eq_ok (ofString?_letter (.inl rfl)) rfl rfl kept

end Request

end CommandProtocol
