import CommandProtocol.Proofs.TextLines

/-!
# How base types are spelled

An identifier that is used as a type is the spelling of a standard type, or it is a name and
means itself.  The one exception are integer types: the width in their name may have leading
zeros, which are no part of the type.  So a type comes back as it was spelled exactly if its
spelling has no such zeros.
-/

namespace CommandProtocol

/-! ## Numerals with leading zeros -/

namespace Text

theorem digitsValue_eq (digits : List Char) :
    digitsValue digits = Nat.ofDigitChars 10 digits 0 := rfl

theorem isDigit_iff {digit : Char} :
    digit.isDigit = true ↔ 48 ≤ digit.toNat ∧ digit.toNat ≤ 57 := by
  rw [Char.isDigit, Bool.and_eq_true, decide_eq_true_iff, decide_eq_true_iff]
  exact Iff.rfl

theorem digitValue_lt {digit : Char} (proper : digit.isDigit = true) : digitValue digit < 10 := by
  have range := isDigit_iff.mp proper
  change digit.toNat - 48 < 10
  omega

theorem toDigits_digitValue {digit : Char} (proper : digit.isDigit = true) :
    Nat.toDigits 10 (digitValue digit) = [digit] := by
  have range := isDigit_iff.mp proper
  have small := digitValue_lt proper
  rw [Nat.toDigits_of_lt_base small]
  congr 1
  apply Char.toNat_inj.mp
  rw [Nat.toNat_digitChar_of_lt_ten small]
  change 48 + (digit.toNat - 48) = digit.toNat
  omega

private theorem toDigits_append {value : Nat} (positive : 0 < value) {digits : List Char}
    (proper : ∀ digit ∈ digits, digit.isDigit = true) :
    Nat.toDigits 10 value ++ digits = Nat.toDigits 10 (Nat.ofDigitChars 10 digits value) := by
  induction digits generalizing value with
  | nil => simp
  | cons digit rest ih =>
      rw [List.forall_mem_cons] at proper
      have small := digitValue_lt proper.1
      have longer : 0 < 10 * value + digitValue digit := by omega
      calc
        Nat.toDigits 10 value ++ digit :: rest
            = (Nat.toDigits 10 value ++ Nat.toDigits 10 (digitValue digit)) ++ rest := by
              rw [toDigits_digitValue proper.1, List.append_assoc, List.singleton_append]
        _ = Nat.toDigits 10 (10 * value + digitValue digit) ++ rest := by
              rw [Nat.toDigits_append_toDigits (by decide) positive small]
        _ = Nat.toDigits 10 (Nat.ofDigitChars 10 rest (10 * value + digitValue digit)) :=
              ih longer proper.2
        _ = Nat.toDigits 10 (Nat.ofDigitChars 10 (digit :: rest) value) := by
              rw [Nat.ofDigitChars_cons]
              rfl

private theorem exists_zeros {digits : List Char} (proper : ∀ digit ∈ digits, digit.isDigit = true)
    (positive : 0 < digitsValue digits) :
    ∃ zeros, digits = List.replicate zeros '0' ++ Nat.toDigits 10 (digitsValue digits) := by
  induction digits with
  | nil => exact absurd positive (Nat.lt_irrefl 0)
  | cons digit rest ih =>
      rw [List.forall_mem_cons] at proper
      by_cases zero : digit = '0'
      · subst zero
        have same : digitsValue ('0' :: rest) = digitsValue rest := rfl
        rw [same] at positive ⊢
        obtain ⟨zeros, parts⟩ := ih proper.2 positive
        refine ⟨zeros + 1, ?_⟩
        rw [List.replicate_succ, List.cons_append, ← parts]
      · have range := isDigit_iff.mp proper.1
        have start : 0 < digitValue digit := by
          have other : digit.toNat ≠ 48 := fun same => zero (Char.toNat_inj.mp same)
          change 0 < digit.toNat - 48
          omega
        have value : digitsValue (digit :: rest) = Nat.ofDigitChars 10 rest (digitValue digit) := by
          rw [digitsValue_eq, Nat.ofDigitChars_cons, Nat.mul_zero, Nat.zero_add]
          rfl
        refine ⟨0, ?_⟩
        rw [value, ← toDigits_append start proper.2, toDigits_digitValue proper.1]
        rfl

theorem isDigit_of_mem_numeral {zeros value : Nat} {char : Char}
    (member : char ∈ List.replicate zeros '0' ++ Nat.toDigits 10 value) : char.isDigit = true := by
  rcases List.mem_append.mp member with member | member
  · rw [List.eq_of_mem_replicate member]
    rfl
  · exact Nat.isDigit_of_mem_toDigits (by decide) (by decide) member

theorem decimal?_eq_some {numeral : List Char} {value : Nat} (positive : 0 < value) :
    decimal? numeral = some value ↔
      ∃ zeros, numeral = List.replicate zeros '0' ++ Nat.toDigits 10 value := by
  constructor
  · intro read
    rw [decimal?] at read
    split at read
    · next digits =>
        cases read
        exact exists_zeros (List.all_eq_true.mp digits.2) positive
    · contradiction
  · rintro ⟨zeros, rfl⟩
    have proper : (List.replicate zeros '0' ++ Nat.toDigits 10 value).all Char.isDigit = true :=
      List.all_eq_true.mpr fun digit member => isDigit_of_mem_numeral member
    rw [decimal?, if_pos ⟨by simp, proper⟩, digitsValue_eq,
      Nat.ofDigitChars_append, Nat.ofDigitChars_replicate_zero]
    simp [Nat.ofDigitChars_ten_toDigits]

def signs : List String := ["", "+"]

@[simp] theorem mem_signs {sign : String} : sign ∈ signs ↔ sign = "" ∨ sign = "+" := by
  simp [signs]

private theorem unsigned?_eq_some {numeral : List Char} {value : Nat} (positive : 0 < value) :
    unsigned? numeral = some value ↔ ∃ sign ∈ signs, ∃ zeros,
      numeral = sign.toList ++ (List.replicate zeros '0' ++ Nat.toDigits 10 value) := by
  unfold unsigned?
  split
  · next rest =>
      rw [decimal?_eq_some positive]
      constructor
      · rintro ⟨zeros, rfl⟩
        exact ⟨"+", by decide, zeros, rfl⟩
      · rintro ⟨sign, known, zeros, parts⟩
        rcases mem_signs.mp known with rfl | rfl
        · -- a plus sign is no digit
          have member : '+' ∈ List.replicate zeros '0' ++ Nat.toDigits 10 value :=
            parts ▸ List.mem_cons_self
          exact absurd (isDigit_of_mem_numeral member) (by decide)
        · exact ⟨zeros, (List.cons.inj parts).2⟩
  · next other =>
      rw [decimal?_eq_some positive]
      constructor
      · rintro ⟨zeros, rfl⟩
        exact ⟨"", by decide, zeros, rfl⟩
      · rintro ⟨sign, known, zeros, parts⟩
        rcases mem_signs.mp known with rfl | rfl
        · exact ⟨zeros, parts⟩
        · exact absurd parts (other _)

end Text

/-! ## Spellings -/

namespace BaseType

def integers : List BaseType := integerWidths.map .int ++ integerWidths.map .uint

def standard : List BaseType := [.void, .float 32, .float 64] ++ integers

def paddedName (zeros : Nat) : BaseType → String
  | .int bits => "int" ++ String.ofList (List.replicate zeros '0') ++ toString bits ++ "_t"
  | .uint bits => "uint" ++ String.ofList (List.replicate zeros '0') ++ toString bits ++ "_t"
  | type => type.cName

def HasPadding (ident : String) : Prop :=
  ∃ type ∈ integers, ∃ zeros, ident = type.paddedName (zeros + 1)

@[simp] theorem paddedName_zero (type : BaseType) : type.paddedName 0 = type.cName := by
  cases type <;> simp [paddedName, cName]

@[simp] theorem mem_integers {type : BaseType} :
    type ∈ integers ↔ ∃ bits ∈ integerWidths, type = .int bits ∨ type = .uint bits := by
  simp only [integers, List.mem_append, List.mem_map, and_or_left, exists_or, eq_comm]

private theorem length_paddedName {type : BaseType} (integer : type ∈ integers) (zeros : Nat) :
    (type.paddedName zeros).length = type.cName.length + zeros := by
  obtain ⟨bits, -, rfl | rfl⟩ := mem_integers.mp integer <;>
    simp [paddedName, cName] <;> omega

def paddedWidth (zeros bits : Nat) : List Char :=
  List.replicate zeros '0' ++ Nat.toDigits 10 bits ++ ['_', 't']

@[simp] theorem toList_paddedName_int (zeros bits : Nat) :
    (paddedName zeros (.int bits)).toList = 'i' :: 'n' :: 't' :: paddedWidth zeros bits := by
  simp [paddedName, paddedWidth]

@[simp] theorem toList_paddedName_uint (zeros bits : Nat) :
    (paddedName zeros (.uint bits)).toList =
      'u' :: 'i' :: 'n' :: 't' :: paddedWidth zeros bits := by
  simp [paddedName, paddedWidth]

private theorem width?_append (numeral : List Char) :
    width? (numeral ++ ['_', 't']) = (Text.unsigned? numeral).filter (· ∈ integerWidths) := by
  simp [width?]

private theorem exists_numeral_of_width? {spelling : List Char} {bits : Nat}
    (width : width? spelling = some bits) : ∃ numeral, spelling = numeral ++ ['_', 't'] := by
  rw [width?] at width
  split at width
  · next reversed backwards =>
      refine ⟨reversed.reverse, ?_⟩
      rw [← List.reverse_reverse spelling, backwards]
      simp
  · contradiction

theorem width?_eq_some {spelling : List Char} {bits : Nat} :
    width? spelling = some bits ↔ bits ∈ integerWidths ∧
      ∃ sign ∈ Text.signs, ∃ zeros, spelling = sign.toList ++ paddedWidth zeros bits := by
  have read (numeral : List Char) :
      width? (numeral ++ ['_', 't']) = some bits ↔ bits ∈ integerWidths ∧
        ∃ sign ∈ Text.signs, ∃ zeros,
          numeral = sign.toList ++ (List.replicate zeros '0' ++ Nat.toDigits 10 bits) := by
    rw [width?_append, Option.filter_eq_some_iff, decide_eq_true_iff, and_comm]
    refine and_congr_right fun standard => Text.unsigned?_eq_some ?_
    simp only [integerWidths, List.mem_cons, List.not_mem_nil, or_false] at standard
    omega
  constructor
  · intro width
    obtain ⟨numeral, rfl⟩ := exists_numeral_of_width? width
    obtain ⟨standard, sign, known, zeros, rfl⟩ := (read numeral).mp width
    exact ⟨standard, sign, known, zeros, List.append_assoc ..⟩
  · rintro ⟨standard, sign, known, zeros, rfl⟩
    rw [paddedWidth, ← List.append_assoc]
    exact (read _).mpr ⟨standard, sign, known, zeros, rfl⟩

def signedName (sign : String) (zeros : Nat) : BaseType → String
  | .int bits =>
      "int" ++ sign ++ String.ofList (List.replicate zeros '0') ++ toString bits ++ "_t"
  | .uint bits =>
      "uint" ++ sign ++ String.ofList (List.replicate zeros '0') ++ toString bits ++ "_t"
  | type => type.cName

/-- The text spells the type; the width of an integer may have a sign and zeros in front. -/
def Spells (type : BaseType) (ident : String) : Prop :=
  ∃ sign ∈ Text.signs, ∃ zeros, ident = type.signedName sign zeros

@[simp] theorem signedName_empty (zeros : Nat) (type : BaseType) :
    type.signedName "" zeros = type.paddedName zeros := by
  cases type <;> simp [signedName, paddedName]

theorem spells_paddedName (zeros : Nat) (type : BaseType) : type.Spells (type.paddedName zeros) :=
  ⟨"", by decide, zeros, (signedName_empty zeros type).symm⟩

@[simp] theorem toList_signedName_int (sign : String) (zeros bits : Nat) :
    (signedName sign zeros (.int bits)).toList =
      'i' :: 'n' :: 't' :: (sign.toList ++ paddedWidth zeros bits) := by
  simp [signedName, paddedWidth]

@[simp] theorem toList_signedName_uint (sign : String) (zeros bits : Nat) :
    (signedName sign zeros (.uint bits)).toList =
      'u' :: 'i' :: 'n' :: 't' :: (sign.toList ++ paddedWidth zeros bits) := by
  simp [signedName, paddedWidth]

theorem integer?_eq_some_iff {ident : String} {type : BaseType} :
    integer? ident = some type ↔ type ∈ integers ∧ type.Spells ident := by
  rw [mem_integers]
  constructor
  · intro integer
    rw [integer?] at integer
    split at integer
    · next spelling spelled =>
        obtain ⟨bits, width, rfl⟩ := Option.map_eq_some_iff.mp integer
        obtain ⟨standard, sign, known, zeros, rfl⟩ := width?_eq_some.mp width
        refine ⟨⟨bits, standard, .inr rfl⟩, sign, known, zeros, ?_⟩
        rw [← String.toList_inj, spelled, toList_signedName_uint]
    · next spelling spelled =>
        obtain ⟨bits, width, rfl⟩ := Option.map_eq_some_iff.mp integer
        obtain ⟨standard, sign, known, zeros, rfl⟩ := width?_eq_some.mp width
        refine ⟨⟨bits, standard, .inl rfl⟩, sign, known, zeros, ?_⟩
        rw [← String.toList_inj, spelled, toList_signedName_int]
    · contradiction
  · rintro ⟨⟨bits, standard, rfl | rfl⟩, sign, known, zeros, rfl⟩
    · have width := width?_eq_some.mpr ⟨standard, sign, known, zeros, rfl⟩
      rw [integer?, toList_signedName_int]
      exact congrArg (Option.map BaseType.int) width
    · have width := width?_eq_some.mpr ⟨standard, sign, known, zeros, rfl⟩
      rw [integer?, toList_signedName_uint]
      exact congrArg (Option.map BaseType.uint) width

theorem integer?_eq_some {ident : String} (plain : '+' ∉ ident.toList) {type : BaseType} :
    integer? ident = some type ↔ type ∈ integers ∧ ∃ zeros, ident = type.paddedName zeros := by
  rw [integer?_eq_some_iff]
  refine and_congr_right fun integer => ⟨?_, ?_⟩
  · rintro ⟨sign, known, zeros, rfl⟩
    rcases Text.mem_signs.mp known with rfl | rfl
    · exact ⟨zeros, signedName_empty zeros type⟩
    · obtain ⟨bits, -, rfl | rfl⟩ := mem_integers.mp integer
      · exact absurd (by simp) plain
      · exact absurd (by simp) plain
  · rintro ⟨zeros, rfl⟩
    exact spells_paddedName zeros type

private theorem ofIdent_paddedName {type : BaseType} (integer : type ∈ integers) {zeros : Nat}
    (plain : '+' ∉ (type.paddedName zeros).toList) : ofIdent (type.paddedName zeros) = type := by
  have other (word : String) (apart : word.toList.head? ≠ some 'i' ∧ word.toList.head? ≠ some 'u') :
      type.paddedName zeros ≠ word := by
    rintro rfl
    obtain ⟨bits, -, rfl | rfl⟩ := mem_integers.mp integer
    · exact apart.1 (by rw [toList_paddedName_int]; rfl)
    · exact apart.2 (by rw [toList_paddedName_uint]; rfl)
  rw [ofIdent, if_neg (other "void" (by decide)), if_neg (other "float" (by decide)),
    if_neg (other "double" (by decide)), (integer?_eq_some plain).mpr ⟨integer, zeros, rfl⟩]
  rfl

theorem ofIdent_eq_named {ident : String} (plain : '+' ∉ ident.toList)
    (other : ∀ type ∈ standard, ident ≠ type.cName) (bare : ¬ HasPadding ident) :
    ofIdent ident = .named ident := by
  have unsized : integer? ident = none := by
    rw [Option.eq_none_iff_forall_not_mem]
    intro type integer
    obtain ⟨known, zeros, rfl⟩ := (integer?_eq_some plain).mp integer
    cases zeros with
    | zero => exact other type (List.mem_append_right _ known) (paddedName_zero type)
    | succ zeros => exact bare ⟨type, known, zeros, rfl⟩
  have void : ident ≠ "void" := other .void (by decide)
  have single : ident ≠ "float" := other (.float 32) (by decide)
  have double : ident ≠ "double" := other (.float 64) (by decide)
  rw [ofIdent, if_neg void, if_neg single, if_neg double, unsized]
  rfl

/--
An identifier is the spelling of a standard type, or that of an integer type with zeros before
its width, or the name of a type of its own.  Only the zeros are not written back.
-/
theorem ofIdent_spelling {ident : String} (word : isIdentifier ident = true) :
    (∀ type ∈ standard, ident = type.cName → ofIdent ident = type) ∧
      (∀ type ∈ integers, ∀ zeros, ident = type.paddedName zeros → ofIdent ident = type) ∧
      ((∀ type ∈ standard, ident ≠ type.cName) → ¬ HasPadding ident →
        ofIdent ident = .named ident) ∧
      ((ofIdent ident).cName = ident ↔ ¬ HasPadding ident) := by
  have plain : '+' ∉ ident.toList := not_mem_of_isIdentifier word rfl
  have own : ∀ type ∈ standard, ofIdent type.cName = type := by decide
  have padded : ∀ type ∈ integers, ∀ zeros, ident = type.paddedName zeros →
      ofIdent ident = type := by
    rintro type known zeros rfl
    exact ofIdent_paddedName known plain
  refine ⟨?_, padded, ofIdent_eq_named plain, ?_, ?_⟩
  · rintro type known rfl
    exact own type known
  · rintro same ⟨type, known, zeros, spelled⟩
    rw [padded type known _ spelled] at same
    have lengths := length_paddedName known (zeros + 1)
    rw [← spelled, ← same] at lengths
    omega
  · intro bare
    by_cases known : ∃ type ∈ standard, ident = type.cName
    · obtain ⟨type, known, rfl⟩ := known
      rw [own type known]
    · have other : ∀ type ∈ standard, ident ≠ type.cName :=
        fun type member same => known ⟨type, member, same⟩
      rw [ofIdent_eq_named plain other bare, cName]

theorem ofIdent_spelling_zeros :
    isIdentifier "uint0016_t" = true ∧ ofIdent "uint0016_t" = .uint 16 ∧
      (ofIdent "uint0016_t").cName ≠ "uint0016_t" := by
  have word : isIdentifier "uint0016_t" = true := by decide
  have zeros : "uint0016_t" = paddedName 2 (.uint 16) := by decide
  have spelling := ofIdent_spelling word
  refine ⟨word, spelling.2.1 (.uint 16) (by decide) 2 zeros, fun same => ?_⟩
  exact spelling.2.2.2.mp same ⟨.uint 16, by decide, 1, zeros⟩

/-- Not every type is written as it was spelled: `int08_t` is written as `int8_t`. -/
theorem spelling_lost :
    ¬ ∀ ident, isIdentifier ident = true → (ofIdent ident).cName = ident := by
  intro kept
  have same : "int8_t" = "int08_t" := kept "int08_t" (by decide)
  exact absurd same (by decide)

end BaseType

end CommandProtocol
