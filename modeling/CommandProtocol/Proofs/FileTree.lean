import CommandProtocol.FileTree
import Mathlib.Data.List.Nodup

/-!
# Writing one file

A path is followed through directories only.  So it never passes the file that it leads
to, and leads to the same place after that file has been written.

Trees are prepared step by step, and every step keeps one node for each place.  In such a
tree a write makes one change, which is the one that a comparison of the files shows.
-/

namespace CommandProtocol.FileTree

/-- The place that a path leads to; it need not exist. -/
def place? (tree : FileTree) (path : String) : Except IoError Place := do
  tree.follow [] (← Path.ofString? path).names

/-- One file is new or has new contents, and every other place is as it was. -/
structure Replaced (before after : FileTree) (path : String) (contents : ByteArray) : Prop where
  place : ∃ place, before.place? path = .ok place ∧ after.place? path = .ok place ∧
    after.node? place = some (.file contents) ∧
    ∀ other, other ≠ place → after.node? other = before.node? other
  read : after.read path = .ok contents

variable {tree after : FileTree} {place target : Place} {node : Node}

/-! ## One node -/

private theorem lookup_filter_of_ne {entries : List (Place × Node)} {other : Place}
    (different : other ≠ place) :
    (entries.filter fun entry => decide (entry.1 ≠ place)).lookup other = entries.lookup other := by
  induction entries with
  | nil => rfl
  | cons entry rest ih =>
      obtain ⟨key, value⟩ := entry
      by_cases same : key = place
      · subst same
        have apart : (other == key) = false := beq_eq_false_iff_ne.mpr different
        rw [List.filter_cons_of_neg (by simp), ih, List.lookup_cons, apart]
      · rw [List.filter_cons_of_pos (by simpa using same), List.lookup_cons, List.lookup_cons, ih]

@[simp] theorem node?_set_self (below : place.isAbove = false) :
    (tree.set place node).node? place = some node := by
  simp [node?, set, below]

theorem node?_set_of_ne {other : Place} (different : other ≠ place) :
    (tree.set place node).node? other = tree.node? other := by
  have apart : (other == place) = false := beq_eq_false_iff_ne.mpr different
  unfold node?
  split
  · rfl
  · rw [set, List.lookup_cons, apart]
    exact lookup_filter_of_ne different

private theorem isAbove_of_not_directory (file : tree.node? place ≠ some .directory) :
    place.isAbove = false := by
  cases above : place.isAbove with
  | false => rfl
  | true => exact absurd (by simp [node?, above]) file

/-! ## Paths -/

@[simp] theorem enter_eq_ok : tree.enter place = .ok () ↔ tree.node? place = some .directory := by
  unfold enter
  split <;> simp_all

private theorem follow_set (file : tree.node? place ≠ some .directory) {names : List String}
    {start : Place} (led : tree.follow start names = .ok target) :
    (tree.set place node).follow start names = .ok target := by
  induction names generalizing start with
  | nil => exact led
  | cons name rest ih =>
      rw [follow] at led ⊢
      cases entered : tree.enter start with
      | error error =>
          rw [entered] at led
          contradiction
      | ok =>
          have directory : tree.node? start = some .directory := enter_eq_ok.mp entered
          have other : start ≠ place := fun same => file (same ▸ directory)
          have kept : (tree.set place node).enter start = .ok () := by
            rw [enter_eq_ok, node?_set_of_ne other, directory]
          rw [entered] at led
          rw [kept]
          cases reached : next start name with
          | error error =>
              rw [reached] at led
              contradiction
          | ok following =>
              rw [reached] at led
              exact ih led

/-- A write that succeeds puts a file at the place of its path, where no directory was. -/
theorem write_eq_ok {path : String} {contents : ByteArray}
    (written : tree.write path contents = .ok after) :
    ∃ names place, Path.ofString? path = .ok names ∧ names.directoryOnly = false ∧
      tree.follow [] names.names = .ok place ∧ tree.node? place ≠ some .directory ∧
      after = tree.set place (.file contents) := by
  unfold write at written
  cases parsed : Path.ofString? path with
  | error error =>
      rw [parsed] at written
      contradiction
  | ok names =>
      simp only [parsed, bind, Except.bind] at written
      split at written
      · cases led : tree.follow [] names.names.dropLast with
        | error error =>
            rw [led] at written
            contradiction
        | ok place =>
            simp only [led] at written
            cases entered : tree.enter place with
            | error error =>
                rw [entered] at written
                contradiction
            | ok =>
                rw [entered] at written
                contradiction
      · next file =>
          cases led : tree.follow [] names.names with
          | error error =>
              rw [led] at written
              contradiction
          | ok place =>
              simp only [led] at written
              split at written
              · contradiction
              · next other =>
                  cases written
                  exact ⟨names, place, rfl, Bool.eq_false_iff.mpr file, led, other, rfl⟩

theorem read_eq_ok {path : String} {names : Path} {contents : ByteArray}
    (parsed : Path.ofString? path = .ok names) (file : names.directoryOnly = false)
    (led : tree.follow [] names.names = .ok place)
    (found : tree.node? place = some (.file contents)) :
    tree.read path = .ok contents := by
  simp only [read, parsed, bind, Except.bind, led, found, file]
  rfl

theorem replaced_of_write {path : String} {contents : ByteArray}
    (written : tree.write path contents = .ok after) : Replaced tree after path contents := by
  obtain ⟨names, place, parsed, file, led, other, rfl⟩ := write_eq_ok written
  have found : (tree.set place (.file contents)).node? place = some (.file contents) :=
    node?_set_self (isAbove_of_not_directory other)
  have led_after : (tree.set place (.file contents)).follow [] names.names = .ok place :=
    follow_set other led
  refine ⟨⟨place, ?_, ?_, found, fun _ => node?_set_of_ne⟩,
    read_eq_ok parsed file led_after found⟩
  · rw [place?, parsed]
    exact led
  · rw [place?, parsed]
    exact led_after

/-! ## Prepared trees -/

def Distinct (tree : FileTree) : Prop := (tree.nodes.map Prod.fst).Nodup

section Distinct

theorem Distinct.set (distinct : tree.Distinct) : (tree.set place node).Distinct := by
  have kept : ((tree.nodes.filter fun entry => entry.1 ≠ place).map Prod.fst).Nodup :=
    List.Nodup.sublist (List.filter_sublist.map _) distinct
  refine List.nodup_cons.mpr ⟨fun member => ?_, kept⟩
  obtain ⟨entry, inside, same⟩ := List.mem_map.mp member
  exact absurd same (of_decide_eq_true (List.mem_filter.mp inside).2)

theorem Distinct.makeAlong (distinct : tree.Distinct) (start : Place) (names : List String) :
    (tree.makeAlong start names).Distinct := by
  fun_induction FileTree.makeAlong tree start names with
  | case1 | case2 | case5 => exact distinct
  | case3 _ _ _ _ _ _ _ ih => exact ih distinct.set
  | case4 _ _ _ _ _ _ _ ih => exact ih distinct

theorem Distinct.makeDirectory (distinct : tree.Distinct) (path : String) :
    (tree.makeDirectory path).Distinct := by
  unfold FileTree.makeDirectory
  split
  · exact distinct
  · exact distinct.makeAlong _ _

theorem Distinct.write (distinct : tree.Distinct) {path : String} {contents : ByteArray}
    (written : tree.write path contents = .ok after) : after.Distinct := by
  obtain ⟨_, _, -, -, -, -, rfl⟩ := write_eq_ok written
  exact distinct.set

theorem Distinct.putFile (distinct : tree.Distinct) (path : String) (contents : ByteArray) :
    (tree.putFile path contents).Distinct := by
  unfold FileTree.putFile
  split
  · exact distinct
  · have prepared := distinct.makeAlong
    dsimp only
    split
    · exact prepared _ _
    · next written => exact (prepared _ _).write written

theorem Distinct.remove (distinct : tree.Distinct) (path : String) :
    (tree.remove path).Distinct := by
  unfold FileTree.remove
  split
  · exact distinct
  · exact List.Nodup.sublist (List.filter_sublist.map _) distinct

inductive Prepared : FileTree → Prop where
  | empty : Prepared {}
  | makeDirectory {tree : FileTree} (path : String) :
      Prepared tree → Prepared (tree.makeDirectory path)
  | putFile {tree : FileTree} (path : String) (contents : ByteArray) :
      Prepared tree → Prepared (tree.putFile path contents)
  | remove {tree : FileTree} (path : String) : Prepared tree → Prepared (tree.remove path)
  | write {tree after : FileTree} {path : String} {contents : ByteArray} :
      tree.write path contents = .ok after → Prepared tree → Prepared after

theorem Prepared.distinct (prepared : tree.Prepared) : tree.Distinct := by
  induction prepared with
  | empty => exact List.nodup_nil
  | makeDirectory path _ ih => exact ih.makeDirectory path
  | putFile path contents _ ih => exact ih.putFile path contents
  | remove path _ ih => exact ih.remove path
  | write written _ ih => exact ih.write written

end Distinct

/-! ## Changes -/

theorem lookup_eq_some_iff {β : Type} {entries : List (Place × β)} {value : β}
    (distinct : (entries.map Prod.fst).Nodup) :
    entries.lookup place = some value ↔ (place, value) ∈ entries := by
  induction entries with
  | nil => simp
  | cons entry rest ih =>
      obtain ⟨key, first⟩ := entry
      obtain ⟨absent, later⟩ := List.nodup_cons.mp distinct
      rw [List.lookup_cons, List.mem_cons]
      by_cases same : place = key
      · subst same
        have elsewhere : (place, value) ∉ rest := fun inside =>
          absent (List.mem_map.mpr ⟨_, inside, rfl⟩)
        simp [elsewhere, eq_comm]
      · have other : (place == key) = false := beq_eq_false_iff_ne.mpr same
        simp [other, same, ih later]

@[simp] theorem mem_files {contents : ByteArray} :
    (place, contents) ∈ tree.files ↔
      (place, .file contents) ∈ tree.nodes ∧ place.head? ≠ some ".." := by
  rw [files, List.mem_filterMap]
  constructor
  · rintro ⟨⟨other, _ | found⟩, inside, taken⟩
    · contradiction
    · dsimp only at taken
      split at taken
      · contradiction
      · cases taken
        exact ⟨inside, by assumption⟩
  · rintro ⟨inside, below⟩
    exact ⟨_, inside, if_neg below⟩

theorem Distinct.files (distinct : tree.Distinct) : (tree.files.map Prod.fst).Nodup := by
  rw [Distinct, List.Nodup, List.pairwise_map] at distinct
  rw [FileTree.files, List.Nodup, List.pairwise_map, List.pairwise_filterMap]
  refine distinct.imp fun {first second} apart found taken found' taken' => ?_
  obtain ⟨place, _ | contents⟩ := first
  · contradiction
  obtain ⟨place', _ | contents'⟩ := second
  · contradiction
  dsimp only at taken taken'
  split at taken
  · contradiction
  split at taken'
  · contradiction
  cases taken
  cases taken'
  exact apart

@[simp] theorem mem_nodes_set {other : Place} {found : Node} :
    (other, found) ∈ (tree.set place node).nodes ↔
      other = place ∧ found = node ∨ other ≠ place ∧ (other, found) ∈ tree.nodes := by
  simp [set, and_comm]

/-- A write makes one change, unless the file held its contents already or is not below. -/
theorem mem_changes_of_write (prepared : tree.Prepared) {path : String} {contents : ByteArray}
    (written : tree.write path contents = .ok after) :
    ∃ place, tree.place? path = .ok place ∧
      ∀ change, change ∈ tree.changes after ↔
        change = (place, some contents) ∧ place.head? ≠ some ".." ∧
          tree.files.lookup place ≠ some contents := by
  have distinct := prepared.distinct
  have distinct_after := distinct.write written
  obtain ⟨names, place, parsed, -, led, -, rfl⟩ := write_eq_ok written
  refine ⟨place, by rw [place?, parsed]; exact led, fun change => ?_⟩
  obtain ⟨other, outcome⟩ := change
  rw [changes, List.mem_append, List.mem_map, List.mem_map]
  constructor
  · rintro (⟨⟨_, found⟩, member, same⟩ | ⟨⟨_, found⟩, member, same⟩) <;>
      obtain ⟨inside, altered⟩ := List.mem_filter.mp member <;> cases same
    · obtain ⟨node, below⟩ := mem_files.mp inside
      have altered := of_decide_eq_true altered
      rcases mem_nodes_set.mp node with ⟨rfl, same⟩ | ⟨-, kept⟩
      · cases same
        exact ⟨rfl, below, altered⟩
      · exact absurd ((lookup_eq_some_iff distinct.files).mpr (mem_files.mpr ⟨kept, below⟩)) altered
    · -- no file goes away: it is the written one, or it is kept
      obtain ⟨node, below⟩ := mem_files.mp inside
      have kept : ∃ contents', (other, contents') ∈
          (tree.set place (.file contents)).files := by
        by_cases same : other = place
        · exact ⟨contents, mem_files.mpr ⟨mem_nodes_set.mpr (.inl ⟨same, rfl⟩), below⟩⟩
        · exact ⟨found, mem_files.mpr ⟨mem_nodes_set.mpr (.inr ⟨same, node⟩), below⟩⟩
      obtain ⟨contents', listed⟩ := kept
      dsimp only at altered
      rw [(lookup_eq_some_iff distinct_after.files).mpr listed] at altered
      contradiction
  · rintro ⟨same, below, altered⟩
    cases same
    refine .inl ⟨(place, contents), List.mem_filter.mpr ⟨?_, decide_eq_true altered⟩, rfl⟩
    exact mem_files.mpr ⟨mem_nodes_set.mpr (.inl ⟨rfl, rfl⟩), below⟩

end CommandProtocol.FileTree
