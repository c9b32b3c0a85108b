import CommandProtocol.Code
import CommandProtocol.Proofs.ParsedTable
import Mathlib.Data.List.Basic
import Mathlib.Data.Option.Basic

/-!
# Lines and their parts

Generated files are read line by line.  A text is cut into lines, the lines are grouped
into paragraphs at the empty ones, and a line is taken apart at its fixed text or at a
separating character.  Each reader gives back what was put together.
-/

namespace CommandProtocol.ReadBack

/-! ## Lines and paragraphs -/

def lines (text : String) : List String :=
  (text.toList.splitOn '\n').dropLast.map String.ofList

def unlines (lines : List String) : String := String.join (lines.map (· ++ "\n"))

def paragraphs (text : String) : List (List String) := (lines text).splitOn ""

theorem splitOn_flatMap_append {α : Type} [BEq α] [LawfulBEq α] {mark : α} {parts : List (List α)}
    {rest : List α} (apart : ∀ part ∈ parts, mark ∉ part) (last : mark ∉ rest) :
    (parts.flatMap (· ++ [mark]) ++ rest).splitOn mark = parts ++ [rest] := by
  induction parts with
  | nil =>
      refine List.splitOnP_eq_singleton fun item member => ?_
      rw [beq_eq_false_iff_ne]
      exact fun same => last (same ▸ member)
  | cons part parts ih =>
      have first : ∀ item ∈ part, (item == mark) = false := by
        intro item member
        rw [beq_eq_false_iff_ne]
        exact fun same => apart part List.mem_cons_self (same ▸ member)
      have later := ih fun other member => apart other (List.mem_cons_of_mem _ member)
      rw [List.flatMap_cons, List.append_assoc, List.append_assoc, List.singleton_append]
      exact (List.splitOnP_append_cons_of_forall_mem first mark (by simp) _).trans
        (congrArg (part :: ·) later)

structure IsLine (line : String) : Prop where
  single : '\n' ∉ line.toList
  filled : line ≠ ""

private theorem lines_unlines {all : List String} (single : ∀ line ∈ all, '\n' ∉ line.toList) :
    lines (unlines all) = all := by
  have chars : (unlines all).toList = (all.map String.toList).flatMap (· ++ ['\n']) := by
    simp [unlines, String.toList_join, List.flatMap_map]
  have cut : ((all.map String.toList).flatMap (· ++ ['\n']) ++ []).splitOn '\n' =
      all.map String.toList ++ [[]] :=
    splitOn_flatMap_append (by simpa using single) (by simp)
  rw [List.append_nil] at cut
  rw [lines, chars, cut, List.dropLast_concat, List.map_map]
  simp [Function.comp_def]

@[simp] theorem unlines_cons (line : String) (rest : List String) :
    unlines (line :: rest) = line ++ "\n" ++ unlines rest := by
  rw [unlines, List.map_cons, String.join_cons, unlines]

@[simp] theorem unlines_append (first second : List String) :
    unlines (first ++ second) = unlines first ++ unlines second := by
  rw [unlines, List.map_append, String.join_append, unlines, unlines]

theorem unlines_flatMap {α : Type} (render : α → List String) (items : List α) :
    unlines (items.flatMap render) = String.join (items.map fun item => unlines (render item)) := by
  induction items with
  | nil => rfl
  | cons item rest ih =>
      rw [List.flatMap_cons, unlines_append, ih, List.map_cons, String.join_cons]

theorem line_one (text : String) : Code.line 1 text = "    " ++ text ++ "\n" := rfl

theorem unlines_map_indented {α : Type} (write : α → String) (items : List α) :
    unlines (items.map fun item => "    " ++ write item) =
      String.join (items.map fun item => Code.line 1 (write item)) := by
  rw [unlines, List.map_map]
  rfl

theorem paragraphs_unlines {groups : List (List String)} {last : List String}
    (inside : ∀ group ∈ groups, ∀ line ∈ group, IsLine line) (final : ∀ line ∈ last, IsLine line) :
    paragraphs (unlines (groups.flatMap (· ++ [""]) ++ last)) = groups ++ [last] := by
  have single : ∀ line ∈ groups.flatMap (· ++ [""]) ++ last, '\n' ∉ line.toList := by
    intro line member
    rcases List.mem_append.mp member with member | member
    · obtain ⟨group, known, member⟩ := List.mem_flatMap.mp member
      rcases List.mem_append.mp member with member | member
      · exact (inside group known line member).single
      · simp [List.mem_singleton.mp member]
    · exact (final line member).single
  rw [paragraphs, lines_unlines single]
  exact splitOn_flatMap_append (fun group known member => (inside group known "" member).filled rfl)
    (fun member => (final "" member).filled rfl)

theorem mapM_map_eq_some {α β γ : Type} {write : α → β} {read? : β → Option γ} {result : α → γ}
    {items : List α} (reads : ∀ item ∈ items, read? (write item) = some (result item)) :
    (items.map write).mapM read? = some (items.map result) := by
  induction items with
  | nil => rfl
  | cons item rest ih =>
      have later := ih fun other member => reads other (List.mem_cons_of_mem _ member)
      rw [List.map_cons, List.mapM_cons, reads item List.mem_cons_self, later]
      rfl

/-! ## Parts of a line -/

/-- What stands between a fixed beginning and a fixed end. -/
def between? (opening closing text : String) : Option String := do
  let rest ← opening.toList.isPrefixOf? text.toList
  let inner ← closing.toList.isSuffixOf? rest
  return String.ofList inner

def cut? (mark : Char) (text : String) : Option (String × String) :=
  match text.toList.dropWhile (· != mark) with
  | [] => none
  | _ :: rest => some (String.ofList (text.toList.takeWhile (· != mark)), String.ofList rest)

def reversed (text : String) : String := String.ofList text.toList.reverse

def cutLast? (mark : Char) (text : String) : Option (String × String) :=
  (cut? mark (reversed text)).map fun (after, before) => (reversed before, reversed after)

def number? (text : String) : Option Nat := Text.decimal? text.toList

section Parts

variable {opening closing inner before after text : String} {mark : Char}

theorem between?_eq_some
    (whole : text.toList = opening.toList ++ (inner.toList ++ closing.toList)) :
    between? opening closing text = some inner := by
  have rest : opening.toList.isPrefixOf? text.toList = some (inner.toList ++ closing.toList) :=
    List.isPrefixOf?_eq_some_iff_append_eq.mpr whole.symm
  have kept : closing.toList.isSuffixOf? (inner.toList ++ closing.toList) = some inner.toList :=
    List.isSuffixOf?_eq_some_iff_append_eq.mpr rfl
  simp only [between?, rest, kept, Option.bind_eq_bind, Option.bind_some, String.ofList_toList]
  rfl

theorem between?_eq_none (other : ¬ opening.toList <+: text.toList) :
    between? opening closing text = none := by
  cases found : opening.toList.isPrefixOf? text.toList with
  | none =>
      rw [between?, found]
      rfl
  | some rest => exact absurd ⟨rest, List.append_eq_of_isPrefixOf?_eq_some found⟩ other

theorem cut?_eq_some (whole : text.toList = before.toList ++ mark :: after.toList)
    (apart : mark ∉ before.toList) : cut? mark text = some (before, after) := by
  have passed : ∀ char ∈ before.toList, (char != mark) = true := by
    intro char member
    exact bne_iff_ne.mpr fun same => apart (same ▸ member)
  simp [cut?, whole, List.dropWhile_append_of_pos passed, List.takeWhile_append_of_pos passed]

theorem cutLast?_eq_some (whole : text.toList = before.toList ++ mark :: after.toList)
    (apart : mark ∉ after.toList) : cutLast? mark text = some (before, after) := by
  have backwards : (reversed text).toList =
      (reversed after).toList ++ mark :: (reversed before).toList := by
    simp [reversed, whole]
  rw [cutLast?, cut?_eq_some backwards (by simpa [reversed] using apart)]
  simp [reversed]

theorem newline_not_mem_of_isIdentifier {name : String} (word : isIdentifier name = true) :
    '\n' ∉ name.toList :=
  not_mem_of_isIdentifier word (by decide)

theorem newline_not_mem_toDigits (value : Nat) : '\n' ∉ Nat.toDigits 10 value := by
  intro member
  have digit := Nat.isDigit_of_mem_toDigits (by decide) (by decide) member
  contradiction

@[simp] theorem number?_toString (value : Nat) : number? (toString value) = some value := by
  have digits : ∀ digit ∈ Nat.toDigits 10 value, digit.isDigit = true :=
    fun digit member => Nat.isDigit_of_mem_toDigits (by decide) (by decide) member
  have present : Nat.toDigits 10 value ≠ [] := by
    have := Nat.toList_repr (n := value)
    intro none
    exact absurd (this.trans none) (by simp)
  rw [number?, Nat.toString_eq_repr, Nat.toList_repr, Text.decimal?,
    if_pos ⟨present, List.all_eq_true.mpr digits⟩]
  exact congrArg some (Nat.ofDigitChars_toDigits (by decide) (by decide))

end Parts

/-! ## Lists with separators -/

def parts (mark : Char) (text : String) : List String :=
  (text.toList.splitOn mark).map String.ofList

theorem parts_intercalate {mark : Char} {separator : String} {texts : List String}
    (single : separator.toList = [mark]) (present : texts ≠ [])
    (apart : ∀ text ∈ texts, mark ∉ text.toList) :
    parts mark (separator.intercalate texts) = texts := by
  have cut : ([mark].intercalate (texts.map String.toList)).splitOn mark =
      texts.map String.toList :=
    List.splitOn_intercalate mark (by simpa using apart) (by simpa using present)
  rw [parts, String.toList_intercalate, single, cut, List.map_map]
  simp [Function.comp_def]

/-- The items of a list that is separated by commas with a blank text after each. -/
def separated? (blank text : String) : Option (List String) :=
  if text = "" then some [] else (parts ',' (blank ++ text)).mapM (between? blank "")

/-- A text that can be told apart from its neighbours in a list between parentheses. -/
structure IsItem (text : String) : Prop where
  filled : text ≠ ""
  comma : ',' ∉ text.toList
  parenthesis : '(' ∉ text.toList

private theorem blank_intercalate (blank : String) {texts : List String} (present : texts ≠ []) :
    blank ++ ("," ++ blank).intercalate texts = ",".intercalate (texts.map (blank ++ ·)) := by
  induction texts with
  | nil => contradiction
  | cons text rest ih =>
      cases rest with
      | nil => simp
      | cons next rest =>
          have later := ih (by simp)
          rw [List.map_cons] at later
          rw [String.intercalate_cons_cons, List.map_cons, List.map_cons,
            String.intercalate_cons_cons, ← later]
          simp [← String.toList_inj]

theorem separated?_intercalate {blank : String} {items : List String}
    (quiet : ',' ∉ blank.toList) (proper : ∀ item ∈ items, IsItem item) :
    separated? blank (("," ++ blank).intercalate items) = some items := by
  cases items with
  | nil => rfl
  | cons first rest =>
      have present : ("," ++ blank).intercalate (first :: rest) ≠ "" := by
        have filled := (proper first List.mem_cons_self).filled
        cases rest with
        | nil => simpa using filled
        | cons next rest =>
            rw [String.intercalate_cons_cons]
            simp [filled]
      have cut : parts ',' (",".intercalate ((first :: rest).map (blank ++ ·))) =
          (first :: rest).map (blank ++ ·) := by
        refine parts_intercalate rfl (by simp) ?_
        rw [List.forall_mem_map]
        intro item member
        simpa using ⟨quiet, (proper item member).comma⟩
      rw [separated?, if_neg present, blank_intercalate blank (by simp), cut]
      have reads : ∀ item ∈ first :: rest, between? blank "" (blank ++ item) = some item :=
        fun item _ => between?_eq_some (by simp)
      simpa using mapM_map_eq_some reads

end CommandProtocol.ReadBack
