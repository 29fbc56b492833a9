import Mathlib.Data.List.Basic
import HazardStore.Proofs.Measure.RoundTrip
/-!
Which texts name a measure. The grammar is stated apart from the reader: a code without components,
or one or two numbers between the parentheses of `SA( )`. The reader accepts a text exactly when the
grammar gives it a measure, and it is that measure.
-/

namespace HazardStore

namespace Double

def isNumberCharacter (c : Char) : Bool :=
  c.isAlphanum || c == '.' || c == '+' || c == '-'

variable {text : List Char} {c : Char}

theorem isNumberCharacter_of_isDigit (digit : c.isDigit = true) : isNumberCharacter c = true := by
  simp [isNumberCharacter, Char.isAlphanum, digit]

theorem isNumberCharacter_of_toLower (letter : c.toLower.isAlpha = true) :
    isNumberCharacter c = true := by
  have alphabetic : c.isAlpha = true := by
    by_cases upper : c.isUpper = true
    · simp [Char.isAlpha, upper]
    · have same : c.toLower = c := by
        unfold Char.toLower
        simp only [Char.isUpper, decide_eq_true_eq] at upper
        rw [dif_neg upper]
      rw [← same]
      exact letter
  simp [isNumberCharacter, Char.isAlphanum, alphabetic]

theorem characters_of_splitSign (rest : ∀ c ∈ (Text.splitSign text).2, isNumberCharacter c = true) :
    ∀ c ∈ text, isNumberCharacter c = true := by
  unfold Text.splitSign at rest
  split at rest
  · exact List.forall_mem_cons.2 ⟨by decide, rest⟩
  · exact List.forall_mem_cons.2 ⟨by decide, rest⟩
  · exact rest

theorem characters_of_numeral? (value : Nat) (read : Text.numeral? text = some value) :
    ∀ c ∈ text, isNumberCharacter c = true := by
  unfold Text.numeral? at read
  split at read
  · rename_i digits
    intro c member
    exact isNumberCharacter_of_isDigit (List.all_eq_true.1 digits.2 c member)
  · cases read

theorem characters_of_signedNumeral? (value : Int) (read : Text.signedNumeral? text = some value) :
    ∀ c ∈ text, isNumberCharacter c = true := by
  unfold Text.signedNumeral? at read
  dsimp only at read
  cases numeral : Text.numeral? (Text.splitSign text).2 with
  | none => rw [numeral] at read; cases read
  | some number => exact characters_of_splitSign (characters_of_numeral? number numeral)

theorem characters_of_exponent? (value : Int) (read : exponent? text = some value) :
    ∀ c ∈ text, isNumberCharacter c = true := by
  unfold exponent? at read
  split at read
  · intro c member
    cases member
  · rename_i mark rest
    split at read
    · rename_i isMark
      refine List.forall_mem_cons.2 ⟨?_, characters_of_signedNumeral? value read⟩
      rcases isMark with same | same <;> rw [same] <;> decide
    · cases read

theorem characters_of_unsignedDecimal? (decimal : Decimal)
    (read : unsignedDecimal? text = some decimal) : ∀ c ∈ text, isNumberCharacter c = true := by
  have split : text.takeWhile Char.isDigit ++ text.dropWhile Char.isDigit = text :=
    List.takeWhile_append_dropWhile
  have digits (part : List Char) : ∀ c ∈ part.takeWhile Char.isDigit, isNumberCharacter c = true :=
    fun c member => isNumberCharacter_of_isDigit (List.mem_takeWhile_imp member)
  rw [← split, List.forall_mem_append]
  refine ⟨digits text, ?_⟩
  unfold unsignedDecimal? at read
  dsimp only at read
  generalize text.dropWhile Char.isDigit = afterWhole at read ⊢
  split at read
  · rename_i rest
    split at read
    · cases read
    · obtain ⟨exponent, exponentRead, _⟩ := Option.map_eq_some_iff.1 read
      have splitRest : rest.takeWhile Char.isDigit ++ rest.dropWhile Char.isDigit = rest :=
        List.takeWhile_append_dropWhile
      rw [List.forall_mem_cons, ← splitRest, List.forall_mem_append]
      exact ⟨by decide, digits rest, characters_of_exponent? exponent exponentRead⟩
  · split at read
    · cases read
    · obtain ⟨exponent, exponentRead, _⟩ := Option.map_eq_some_iff.1 read
      exact characters_of_exponent? exponent exponentRead

theorem characters_of_lowerCase (word : List Char) (same : lowerCase text = word)
    (letters : word.all Char.isAlpha = true) : ∀ c ∈ text, isNumberCharacter c = true := by
  intro c member
  apply isNumberCharacter_of_toLower
  apply List.all_eq_true.1 letters
  rw [← same]
  exact List.mem_map_of_mem member

theorem characters_of_ofText? (value : Double) (read : ofText? text = some value) :
    ∀ c ∈ text, isNumberCharacter c = true := by
  apply characters_of_splitSign
  unfold ofText? at read
  dsimp only at read
  generalize (Text.splitSign text).2 = body at read ⊢
  split at read
  · rename_i decimal decimalRead
    exact characters_of_unsignedDecimal? decimal decimalRead
  · split at read
    · rename_i word
      exact characters_of_lowerCase _ word rfl
    · split at read
      · rename_i word
        rcases word with word | word
        · exact characters_of_lowerCase _ word rfl
        · exact characters_of_lowerCase _ word rfl
      · cases read

end Double

namespace Measure

open Text

/-- A parameter stands for a number when it is the text of it, blanks at its ends apart. -/
def Denotes (parameter : List Char) (number : PositiveNumber) : Prop :=
  Double.ofText? (trim parameter) = some number.value

/-- What may stand between the parentheses of a spectral text. -/
inductive Parameters : List Char → PositiveNumber → PositiveNumber → Prop where
  | period (inner : List Char) (period damping : PositiveNumber) (single : ',' ∉ inner)
      (denoted : Denotes inner period) (default : damping.value = defaultDamping) :
      Parameters inner period damping
  | both (first second : List Char) (period damping : PositiveNumber) (split : ',' ∉ first)
      (periodDenoted : Denotes first period) (dampingDenoted : Denotes second damping) :
      Parameters (first ++ ',' :: second) period damping

def spectralText (inner : List Char) : List Char :=
  'S' :: 'A' :: '(' :: (inner ++ [')'])

/-- The texts without blanks at their ends that name a measure. -/
inductive Names : List Char → Measure → Prop where
  | code (kind : MeasureKind) (notSpectral : kind.isSpectral = false) :
      Names kind.code.toList (.simple kind notSpectral)
  | spectral (inner : List Char) (period damping : PositiveNumber)
      (parameters : Parameters inner period damping) :
      Names (spectralText inner) (.spectral period damping)

/-! ### The reader follows the grammar -/

theorem positive_eq_ok_iff (component : SpectralComponent) (value : Double)
    (number : PositiveNumber) :
    positive component value = .ok number ↔ number.value = value := by
  unfold positive
  constructor
  · intro accepted
    split at accepted
    · split at accepted
      · cases accepted
        rfl
      · cases accepted
    · cases accepted
  · intro same
    subst same
    rw [dif_pos number.isFinite, dif_pos number.isPositive]

theorem ofParameters_eq_ok_iff (period damping : Double) (measure : Measure) :
    ofParameters period damping = .ok measure ↔
      ∃ one two : PositiveNumber, one.value = period ∧ two.value = damping ∧
        measure = .spectral one two := by
  constructor
  · intro accepted
    unfold ofParameters at accepted
    cases first : positive .period period with
    | error violation => rw [first] at accepted; cases accepted
    | ok one =>
        cases second : positive .damping damping with
        | error violation => rw [first, second] at accepted; cases accepted
        | ok two =>
            rw [first, second] at accepted
            exact ⟨one, two, (positive_eq_ok_iff _ _ _).1 first,
              (positive_eq_ok_iff _ _ _).1 second, (Except.ok.inj accepted).symm⟩
  · intro known
    obtain ⟨one, two, periodIs, dampingIs, same⟩ := known
    rw [← periodIs, ← dampingIs, same]
    exact ofParameters_value one two

theorem parameter_eq_ok_iff (name text : List Char) (value : Double) :
    parameter name text = .ok value ↔ Double.ofText? (trim text) = some value := by
  unfold parameter
  cases Double.ofText? (trim text) <;> simp

theorem ofParameterText_eq_ok_iff (name inner : List Char) (measure : Measure) :
    ofParameterText name inner = .ok measure ↔
      ∃ period damping, Parameters inner period damping ∧ measure = .spectral period damping := by
  constructor
  · intro accepted
    unfold ofParameterText at accepted
    by_cases comma : ',' ∈ inner
    · obtain ⟨first, second, split, before⟩ := List.eq_append_cons_of_mem comma
      subst split
      rw [splitAtComma_pair first second (fun c member same => before (same ▸ member))] at accepted
      cases periodRead : parameter name first with
      | error violation => simp only [periodRead] at accepted; cases accepted
      | ok period =>
          cases dampingRead : parameter name second with
          | error violation => simp only [periodRead, dampingRead] at accepted; cases accepted
          | ok damping =>
              simp only [periodRead, dampingRead] at accepted
              obtain ⟨one, two, periodIs, dampingIs, same⟩ :=
                (ofParameters_eq_ok_iff _ _ _).1 accepted
              refine ⟨one, two, .both first second one two before ?_ ?_, same⟩
              · unfold Denotes
                rw [periodIs]
                exact (parameter_eq_ok_iff _ _ _).1 periodRead
              · unfold Denotes
                rw [dampingIs]
                exact (parameter_eq_ok_iff _ _ _).1 dampingRead
    · rw [splitAtComma_alone inner (fun c member same => comma (same ▸ member))] at accepted
      cases periodRead : parameter name inner with
      | error violation => simp only [periodRead] at accepted; cases accepted
      | ok period =>
          simp only [periodRead] at accepted
          obtain ⟨one, two, periodIs, dampingIs, same⟩ := (ofParameters_eq_ok_iff _ _ _).1 accepted
          refine ⟨one, two, .period inner one two comma ?_ dampingIs, same⟩
          unfold Denotes
          rw [periodIs]
          exact (parameter_eq_ok_iff _ _ _).1 periodRead
  · intro known
    obtain ⟨period, damping, parameters, same⟩ := known
    subst same
    unfold ofParameterText
    cases parameters with
    | period _ _ _ single denoted default =>
        rw [splitAtComma_alone inner (fun c member same => single (same ▸ member))]
        simp only [(parameter_eq_ok_iff name inner _).2 denoted, ← default]
        exact ofParameters_value period damping
    | both first second _ _ split periodDenoted dampingDenoted =>
        rw [splitAtComma_pair first second (fun c member same => split (same ▸ member))]
        simp only [(parameter_eq_ok_iff name _ _).2 periodDenoted,
          (parameter_eq_ok_iff name _ _).2 dampingDenoted]
        exact ofParameters_value period damping

theorem parenthesised?_eq_some_iff (text inner : List Char) :
    parenthesised? text = some inner ↔ text = '(' :: (inner ++ [')']) := by
  constructor
  · intro found
    unfold parenthesised? at found
    split at found
    · rename_i rest
      split at found
      · rename_i last
        cases found
        rw [List.dropLast_append_getLast? _ last]
      · cases found
    · cases found
  · intro same
    rw [same]
    exact parenthesised?_parameters inner

theorem ofCodeText_eq_ok_iff (name : List Char) (measure : Measure) :
    ofCodeText name = .ok measure ↔
      ∃ kind notSpectral, name = kind.code.toList ∧ measure = .simple kind notSpectral := by
  unfold ofCodeText
  constructor
  · intro accepted
    cases found : MeasureKind.ofCode? (String.ofList name) with
    | none => rw [found] at accepted; cases accepted
    | some kind =>
        rw [found] at accepted
        simp only [ofKind] at accepted
        split at accepted
        · rename_i notSpectral
          have same := (MeasureKind.ofCode?_eq_some_iff _ _).1 found
          exact ⟨kind, notSpectral, by rw [same, String.toList_ofList],
            (Except.ok.inj accepted).symm⟩
        · cases accepted
  · intro known
    obtain ⟨kind, notSpectral, text, same⟩ := known
    have found : MeasureKind.ofCode? (String.ofList name) = some kind := by
      rw [MeasureKind.ofCode?_eq_some_iff, text, String.ofList_toList]
    rw [found, same]
    simp only [ofKind, dif_pos notSpectral]

theorem ofText_eq_ok_iff (text : String) (measure : Measure) :
    ofText text = .ok measure ↔ Names (trim text.toList) measure := by
  constructor
  · intro accepted
    unfold ofText at accepted
    dsimp only at accepted
    generalize trim text.toList = name at accepted ⊢
    have code (read : ofCodeText name = .ok measure) : Names name measure := by
      obtain ⟨kind, notSpectral, same, simple⟩ := (ofCodeText_eq_ok_iff _ _).1 read
      rw [same, simple]
      exact .code kind notSpectral
    split at accepted
    · cases accepted
    · rename_i rest
      split at accepted
      · rename_i inner found
        obtain ⟨period, damping, parameters, same⟩ := (ofParameterText_eq_ok_iff _ _ _).1 accepted
        rw [same, (parenthesised?_eq_some_iff _ _).1 found]
        exact .spectral inner period damping parameters
      · exact code accepted
    · exact code accepted
  · intro names
    generalize trimmed : trim text.toList = name at names
    cases names with
    | code kind notSpectral => exact ofText_code text kind notSpectral trimmed
    | spectral inner period damping parameters =>
        unfold ofText
        simp only [trimmed, spectralText, parenthesised?_parameters]
        exact (ofParameterText_eq_ok_iff _ _ _).2 ⟨period, damping, parameters, rfl⟩

/-- The parameters between parentheses are the parts around the first comma. -/
inductive HasParameter : List Char → List Char → Prop where
  | alone (inner : List Char) (single : ',' ∉ inner) : HasParameter inner inner
  | first (first second : List Char) (split : ',' ∉ first) :
      HasParameter (first ++ ',' :: second) first
  | second (first second : List Char) (split : ',' ∉ first) :
      HasParameter (first ++ ',' :: second) second

/-- Numbers that are no period and no damping. A decimal that is too small or too large is read as
zero or as infinite. -/
inductive Unsuitable : Double → Prop where
  | notANumber : Unsuitable .nan
  | infinite (negative : Bool) : Unsuitable (.infinite negative)
  | zero (negative : Bool) : Unsuitable (.ofCode negative 0)
  | negative (code : Fin finiteMagnitudes) : Unsuitable (.finite true code)

inductive Malformed : List Char → Prop where
  | bare : Malformed ['S', 'A']
  | unclosed (rest : List Char) (unended : rest.getLast? ≠ some ')') :
      Malformed ('S' :: 'A' :: '(' :: rest)
  | doubled (inner : List Char) (parenthesis : '(' ∈ inner ∨ ')' ∈ inner) :
      Malformed (spectralText inner)
  | surrounded (before inner after : List Char) (apart : before ≠ ['S', 'A'] ∨ after ≠ []) :
      Malformed (before ++ '(' :: (inner ++ ')' :: after))
  | commas (first second third : List Char) :
      Malformed (spectralText (first ++ ',' :: (second ++ ',' :: third)))
  | empty (inner parameter : List Char) (has : HasParameter inner parameter)
      (blank : ∀ c ∈ parameter, isBlank c = true) : Malformed (spectralText inner)
  | unsuitable (inner parameter : List Char) (value : Double) (has : HasParameter inner parameter)
      (read : Double.ofText? (trim parameter) = some value) (unsuitable : Unsuitable value) :
      Malformed (spectralText inner)

theorem Unsuitable.ne_value {value : Double} (unsuitable : Unsuitable value)
    (number : PositiveNumber) : number.value ≠ value := by
  intro same
  have finite := number.isFinite
  have positive := number.isPositive
  rw [same] at finite positive
  cases unsuitable with
  | notANumber => cases finite
  | infinite negative => cases finite
  | zero negative => cases negative <;> cases positive
  | negative code => cases positive

theorem Denotes.not_mem {parameter : List Char} {number : PositiveNumber} {c : Char}
    (denotes : Denotes parameter number) (solid : isBlank c = false)
    (punctuation : Double.isNumberCharacter c = false) : c ∉ parameter := by
  intro member
  have kept := Double.characters_of_ofText? _ denotes c (mem_trim parameter c member solid)
  rw [punctuation] at kept
  cases kept

namespace Parameters

variable {inner : List Char} {period damping : PositiveNumber}

theorem not_mem (parameters : Parameters inner period damping) {c : Char} (other : c ≠ ',')
    (solid : isBlank c = false) (punctuation : Double.isNumberCharacter c = false) : c ∉ inner := by
  cases parameters with
  | period _ _ _ _ denoted _ => exact denoted.not_mem solid punctuation
  | both first second _ _ _ periodDenoted dampingDenoted =>
      intro member
      rcases List.mem_append.1 member with inFirst | later
      · exact periodDenoted.not_mem solid punctuation inFirst
      · rcases List.mem_cons.1 later with comma | inSecond
        · exact other comma
        · exact dampingDenoted.not_mem solid punctuation inSecond

theorem around_comma (parameters : Parameters inner period damping) (first second : List Char)
    (around : inner = first ++ ',' :: second) : Denotes first period ∧ Denotes second damping := by
  cases parameters with
  | period _ _ _ single _ _ =>
      rw [around] at single
      exact absurd (List.mem_append_right _ (List.mem_cons_self ..)) single
  | both one two _ _ split periodDenoted dampingDenoted =>
      have commaless : ',' ∉ two := dampingDenoted.not_mem (by decide) (by decide)
      obtain ⟨sameFirst, _, sameSecond⟩ :=
        (List.append_cons_inj_of_notMem split commaless).1 around
      rw [← sameFirst, ← sameSecond]
      exact ⟨periodDenoted, dampingDenoted⟩

theorem denotes (parameters : Parameters inner period damping) {parameter : List Char}
    (has : HasParameter inner parameter) : ∃ number, Denotes parameter number := by
  cases has with
  | alone _ single =>
      cases parameters with
      | period _ _ _ _ denoted _ => exact ⟨period, denoted⟩
      | both one two _ _ _ _ _ =>
          exact absurd (List.mem_append_right _ (List.mem_cons_self ..)) single
  | first _ _ _ => exact ⟨period, (parameters.around_comma _ _ rfl).1⟩
  | second _ _ _ => exact ⟨damping, (parameters.around_comma _ _ rfl).2⟩

end Parameters

theorem code_unparenthesised (kind : MeasureKind) : '(' ∉ kind.code.toList := by
  cases kind <;> decide

theorem names_spectralText {inner : List Char} {measure : Measure}
    (names : Names (spectralText inner) measure) :
    ∃ period damping, Parameters inner period damping := by
  generalize same : spectralText inner = text at names
  cases names with
  | code kind _ =>
      have parenthesis : '(' ∈ kind.code.toList := by
        rw [← same]
        exact List.mem_cons_of_mem _ (List.mem_cons_of_mem _ (List.mem_cons_self ..))
      exact absurd parenthesis (code_unparenthesised kind)
  | spectral other period damping parameters =>
      have between : inner = other := by
        simpa [spectralText] using same
      rw [between]
      exact ⟨period, damping, parameters⟩

theorem Malformed.not_names {text : List Char} (malformed : Malformed text) (measure : Measure) :
    ¬Names text measure := by
  intro names
  cases malformed with
  | bare =>
      generalize same : ['S', 'A'] = text at names
      cases names with
      | code kind notSpectral =>
          have spectral : kind = .spectralAcceleration :=
            MeasureKind.code_injective (String.toList_inj.1 same.symm)
          rw [spectral] at notSpectral
          cases notSpectral
      | spectral inner _ _ _ => cases same
  | unclosed rest unended =>
      generalize same : 'S' :: 'A' :: '(' :: rest = text at names
      cases names with
      | code kind _ =>
          apply code_unparenthesised kind
          rw [← same]
          exact List.mem_cons_of_mem _ (List.mem_cons_of_mem _ (List.mem_cons_self ..))
      | spectral inner _ _ _ =>
          have ended : rest = inner ++ [')'] := by
            simpa [spectralText] using same
          exact unended (by rw [ended, List.getLast?_concat])
  | doubled inner parenthesis =>
      obtain ⟨period, damping, parameters⟩ := names_spectralText names
      rcases parenthesis with opened | closed
      · exact parameters.not_mem (by decide) (by decide) (by decide) opened
      · exact parameters.not_mem (by decide) (by decide) (by decide) closed
  | surrounded before inner after apart =>
      generalize same : before ++ '(' :: (inner ++ ')' :: after) = text at names
      cases names with
      | code kind _ =>
          apply code_unparenthesised kind
          rw [← same]
          exact List.mem_append_right _ (List.mem_cons_self ..)
      | spectral other period damping parameters =>
          have unopened : '(' ∉ other := parameters.not_mem (by decide) (by decide) (by decide)
          have unclosed : ')' ∉ other := parameters.not_mem (by decide) (by decide) (by decide)
          have opens : ['S', 'A'] ++ '(' :: (other ++ [')']) =
              before ++ '(' :: (inner ++ ')' :: after) := same.symm
          obtain ⟨sameBefore, _, closes⟩ := (List.append_cons_inj_of_notMem (by decide)
            (by simp [unopened])).1 opens
          obtain ⟨_, _, sameAfter⟩ := (List.append_cons_inj_of_notMem unclosed (by simp)).1 closes
          rcases apart with otherBefore | otherAfter
          · exact otherBefore sameBefore.symm
          · exact otherAfter sameAfter.symm
  | commas first second third =>
      obtain ⟨period, damping, parameters⟩ := names_spectralText names
      have denotes := (parameters.around_comma first (second ++ ',' :: third) rfl).2
      exact denotes.not_mem (by decide) (by decide)
        (List.mem_append_right _ (List.mem_cons_self ..))
  | empty inner parameter has blank =>
      obtain ⟨period, damping, parameters⟩ := names_spectralText names
      obtain ⟨number, denotes⟩ := parameters.denotes has
      unfold Denotes at denotes
      rw [trim_eq_nil parameter blank] at denotes
      cases denotes
  | unsuitable inner parameter value has read unsuitable =>
      obtain ⟨period, damping, parameters⟩ := names_spectralText names
      obtain ⟨number, denotes⟩ := parameters.denotes has
      unfold Denotes at denotes
      rw [read] at denotes
      exact unsuitable.ne_value number (Option.some.inj denotes).symm

/-- A text is read as the measure that the grammar gives it, blanks at its ends apart, and as an
error when the grammar gives it none; the malformed texts are among those. -/
theorem ofText_names (text : String) :
    (∀ measure, ofText text = .ok measure ↔ Names (trim text.toList) measure) ∧
    ((∃ violation, ofText text = .error violation) ↔
      ∀ measure, ¬Names (trim text.toList) measure) ∧
    (Malformed (trim text.toList) → ∃ violation, ofText text = .error violation) := by
  have rejected : (∃ violation, ofText text = .error violation) ↔
      ∀ measure, ¬Names (trim text.toList) measure := by
    constructor
    · intro failed measure names
      obtain ⟨violation, failed⟩ := failed
      rw [(ofText_eq_ok_iff text measure).2 names] at failed
      cases failed
    · intro nameless
      cases outcome : ofText text with
      | ok measure => exact absurd ((ofText_eq_ok_iff text measure).1 outcome) (nameless measure)
      | error violation => exact ⟨violation, rfl⟩
  exact ⟨ofText_eq_ok_iff text, rejected,
    fun malformed => rejected.2 (fun measure => malformed.not_names measure)⟩

theorem ofText_names_overflow :
    Malformed (trim "\tSA(0.1, 1e999) ".toList) ∧
      ∃ violation, ofText "\tSA(0.1, 1e999) " = .error violation := by
  have trimmed : trim "\tSA(0.1, 1e999) ".toList =
      spectralText (['0', '.', '1'] ++ ',' :: [' ', '1', 'e', '9', '9', '9']) := by decide +kernel
  have malformed : Malformed (trim "\tSA(0.1, 1e999) ".toList) := by
    rw [trimmed]
    exact .unsuitable _ _ (.infinite false) (.second _ _ (by decide)) (by decide +kernel)
      (.infinite false)
  exact ⟨malformed, (ofText_names _).2.2 malformed⟩

end Measure

end HazardStore
