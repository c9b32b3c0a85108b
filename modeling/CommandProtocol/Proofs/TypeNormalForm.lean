import CommandProtocol.Proofs.Fingerprint
import CommandProtocol.Proofs.TypeSpelling

/-!
# Types that are spelled alike

To classify a text and to spell the type that comes out is a normalisation: the spelling is
classified as the text was.  Two texts have one normal form exactly if they are equal or spell
the same integer type, so a name that is passed through is never taken for a standard type.
The same holds of the types of a spec with their qualifiers and stars.
-/

namespace CommandProtocol

namespace BaseType

variable {ident first second : String} {type : BaseType}

theorem cName_ofIdent_or_spells (ident : String) :
    (ofIdent ident).cName = ident ∨ ofIdent ident ∈ integers ∧ (ofIdent ident).Spells ident := by
  rw [ofIdent]
  split
  · next void => exact .inl void.symm
  split
  · next single => exact .inl single.symm
  split
  · next double => exact .inl double.symm
  cases integer : integer? ident with
  | none => exact .inl rfl
  | some type => exact .inr (integer?_eq_some_iff.mp integer)

@[simp] theorem ofIdent_cName_ofIdent (ident : String) :
    ofIdent (ofIdent ident).cName = ofIdent ident := by
  rcases cName_ofIdent_or_spells ident with same | ⟨integer, -⟩
  · rw [same]
  · have own : ∀ type ∈ integers, ofIdent type.cName = type := by decide
    exact own _ integer

theorem ofIdent_of_spells (integer : type ∈ integers) (spelled : type.Spells ident) :
    ofIdent ident = type := by
  have read := integer?_eq_some_iff.mpr ⟨integer, spelled⟩
  have other (word : String) (unsized : integer? word = none) : ident ≠ word := by
    rintro rfl
    rw [unsized] at read
    contradiction
  rw [ofIdent, if_neg (other "void" rfl), if_neg (other "float" rfl), if_neg (other "double" rfl),
    read]
  rfl

theorem spells_ofIdent (ident : String) : (ofIdent ident).Spells ident := by
  rcases cName_ofIdent_or_spells ident with same | ⟨-, spelled⟩
  · have plain := spells_paddedName 0 (ofIdent ident)
    rw [paddedName_zero, same] at plain
    exact plain
  · exact spelled

private theorem ofIdent_eq_of_cName_eq (same : (ofIdent first).cName = (ofIdent second).cName) :
    ofIdent first = ofIdent second := by
  rw [← ofIdent_cName_ofIdent first, same, ofIdent_cName_ofIdent]

private theorem ofIdent_eq_iff : ofIdent first = ofIdent second ↔
    first = second ∨ ∃ type ∈ integers, type.Spells first ∧ type.Spells second := by
  constructor
  · intro same
    by_cases integer : ofIdent first ∈ integers
    · refine .inr ⟨ofIdent first, integer, spells_ofIdent first, ?_⟩
      rw [same]
      exact spells_ofIdent second
    · -- neither text spells an integer type, so both are written back
      have kept := (cName_ofIdent_or_spells first).resolve_right fun spelled => integer spelled.1
      have kept_second := (cName_ofIdent_or_spells second).resolve_right
        fun spelled => integer (same ▸ spelled.1)
      rw [← kept, same, kept_second]
      exact .inl rfl
  · rintro (rfl | ⟨type, integer, spelled, spelled_second⟩)
    · rfl
    · rw [ofIdent_of_spells integer spelled, ofIdent_of_spells integer spelled_second]

end BaseType

/-! ## Types of a spec -/

def Call.types (call : Call) : List Variable := call.result :: call.params

theorem Spec.type?_cType_of_parse {text : String} {table : CallTable}
    (parsed : parse text = .ok table) {type : Variable}
    (member : type ∈ table.calls.flatMap Call.types) :
    ReadBack.type? type.cType = some type.bare := by
  obtain ⟨call, known, inside⟩ := List.mem_flatMap.mp member
  have fit := parse_wellFormed parsed call known
  have readable := parse_readable parsed call known
  rcases List.mem_cons.mp inside with rfl | inside
  · exact ReadBack.type?_cType fit.result.base readable.result
  · exact ReadBack.type?_cType (fit.params type inside).base (readable.params type inside)

private theorem Spec.cType_eq_iff {text : String} {table : CallTable}
    (parsed : parse text = .ok table)
    {first second : Variable} (member : first ∈ table.calls.flatMap Call.types)
    (member_second : second ∈ table.calls.flatMap Call.types) :
    first.cType = second.cType ↔ first.bare = second.bare := by
  constructor
  · intro same
    have read := type?_cType_of_parse parsed member
    rw [same, type?_cType_of_parse parsed member_second] at read
    exact (Option.some.inj read).symm
  · intro same
    have spelled (type : Variable) : type.cType = type.bare.cType := rfl
    rw [spelled first, same, spelled second]

/--
The spelling of a text's type is its normal form, which no text of another type has.  So two
types of a spec are written alike only if they are the same type.
-/
theorem BaseType.spelling_normalises :
    (∀ ident, ofIdent (ofIdent ident).cName = ofIdent ident) ∧
      (∀ first second, (ofIdent first).cName = (ofIdent second).cName →
        ofIdent first = ofIdent second) ∧
      (∀ first second, ofIdent first = ofIdent second ↔
        first = second ∨ ∃ type ∈ integers, type.Spells first ∧ type.Spells second) ∧
      ∀ text table, Spec.parse text = .ok table →
        ∀ first ∈ table.calls.flatMap Call.types, ∀ second ∈ table.calls.flatMap Call.types,
          (first.cType = second.cType ↔ first.bare = second.bare) :=
  ⟨ofIdent_cName_ofIdent, fun _ _ => ofIdent_eq_of_cName_eq, fun _ _ => ofIdent_eq_iff,
    fun _ _ parsed _ member _ member_second => Spec.cType_eq_iff parsed member member_second⟩

theorem BaseType.spelling_normalises_byte :
    (ofIdent "int+008_t").cName = (ofIdent "int8_t").cName ∧
      ofIdent "int+008_t" = ofIdent "int8_t" ∧
      ∃ table, Spec.parse "A \x7b\n param int08_t x\n ret int8_t\n\x7d\n" = .ok table ∧
        ∃ first ∈ table.calls.flatMap Call.types, ∃ second ∈ table.calls.flatMap Call.types,
          first ≠ second ∧ first.cType = second.cType ∧ first.bare = second.bare := by
  have same : (ofIdent "int+008_t").cName = (ofIdent "int8_t").cName := by rfl
  let param : Variable := { base := .int 8, name := "x" }
  let table : CallTable := ⟨[{ name := "A", result := param.bare, params := [param] }], by simp⟩
  have parsed : Spec.parse "A \x7b\n param int08_t x\n ret int8_t\n\x7d\n" = .ok table := by rfl
  have declared : param ∈ table.calls.flatMap Call.types := by decide
  have returned : param.bare ∈ table.calls.flatMap Call.types := by decide
  have alike : param.cType = param.bare.cType := rfl
  refine ⟨same, spelling_normalises.2.1 _ _ same, table, parsed, param, declared, param.bare,
    returned, by decide, alike, ?_⟩
  exact (spelling_normalises.2.2.2 _ table parsed param declared param.bare returned).mp alike

end CommandProtocol
