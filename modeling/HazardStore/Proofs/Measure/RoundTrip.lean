import Mathlib.Data.List.TakeWhile
import HazardStore.Proofs.Double.Text
import HazardStore.Proofs.Session.Runs
import HazardStore.Proofs.Session.Statements
import HazardStore.Proofs.Text.Trim
import HazardStore.Record
import HazardStore.Store.Measures
/-!
Measures survive being written: the text of a measure names it again, blanks around it or not, and
the components that a registration binds are read back as the same measure.
-/

namespace HazardStore

/-- The components that a statement asks the table of measures to take in. -/
def Statement.spelling? : Statement → Option ReferenceMeasure
  | .registerMeasure text code period? damping? => some ⟨text, code, period?, damping?⟩
  | .seedMeasure reference => some reference
  | _ => none

def Measure.spelling (measure : Measure) : ReferenceMeasure where
  text := measure.text
  code := measure.kind.code
  period? := measure.period?
  damping? := measure.damping?

def ReferenceMeasure.row (spelling : ReferenceMeasure) (id : RecordId) : MeasureRow where
  id := id
  text := spelling.text
  code := spelling.code
  period? := spelling.period?
  damping? := spelling.damping?

private theorem digit_or_point_solid (c : Char) (kind : c.isDigit = true ∨ c = '.') :
    Text.isBlank c = false ∧ c ≠ ',' := by
  rcases kind with digit | point
  · obtain ⟨least, most⟩ := Char.isDigit_iff_toNat.1 digit
    change 48 ≤ c.toNat at least
    change c.toNat ≤ 57 at most
    constructor
    · simp only [Text.isBlank, Text.blankRanges, List.any_cons, List.any_nil, Bool.or_false,
        Bool.or_eq_false_iff, Bool.and_eq_false_iff, decide_eq_false_iff_not]
      omega
    · intro comma
      subst comma
      exact absurd least (by decide)
  · subst point
    decide

namespace PositiveNumber

theorem mem_text (number : PositiveNumber) (c : Char) (member : c ∈ number.value.text) :
    c.isDigit = true ∨ c = '.' := by
  obtain ⟨whole, fraction, textIs, _, digit, _⟩ :=
    Double.text_of_positive number.value number.isFinite number.isPositive
  rw [textIs] at member
  exact Double.mem_pointed whole fraction digit c member

theorem text_ne_nil (number : PositiveNumber) : number.value.text ≠ [] := by
  obtain ⟨whole, fraction, textIs, nonempty, _, _⟩ :=
    Double.text_of_positive number.value number.isFinite number.isPositive
  rw [textIs]
  exact Double.pointed_ne_nil whole fraction nonempty

end PositiveNumber

namespace Measure

/-! ### Reading what was written -/

theorem ofParameters_value (period damping : PositiveNumber) :
    ofParameters period.value damping.value = .ok (.spectral period damping) := by
  have accepted (component : SpectralComponent) (number : PositiveNumber) :
      positive component number.value = .ok number := by
    unfold positive
    rw [dif_pos number.isFinite, dif_pos number.isPositive]
  unfold ofParameters
  rw [accepted, accepted]
  rfl

theorem isDefaultDamping_iff (damping : PositiveNumber) :
    isDefaultDamping damping.value = true ↔ damping.value = defaultDamping :=
  Double.sameNumber_iff_of_positive _ _ damping.isFinite damping.isPositive

theorem splitAtComma_alone (text : List Char) (commaless : ∀ c ∈ text, c ≠ ',') :
    splitAtComma text = (text, none) := by
  have passed : ∀ c ∈ text, decide (c ≠ ',') = true :=
    fun c member => decide_eq_true (commaless c member)
  have nothing : text.dropWhile (· ≠ ',') = [] := by
    rw [List.dropWhile_eq_nil_iff]
    exact passed
  unfold splitAtComma
  rw [nothing]

theorem splitAtComma_pair (first second : List Char) (commaless : ∀ c ∈ first, c ≠ ',') :
    splitAtComma (first ++ ',' :: second) = (first, some second) := by
  have passed : ∀ c ∈ first, decide (c ≠ ',') = true :=
    fun c member => decide_eq_true (commaless c member)
  have after : (first ++ ',' :: second).dropWhile (· ≠ ',') = ',' :: second := by
    rw [List.dropWhile_append_of_pos passed]
    rfl
  have before : (first ++ ',' :: second).takeWhile (· ≠ ',') = first := by
    rw [List.takeWhile_append_of_pos passed]
    simp
  unfold splitAtComma
  rw [after, before]

theorem parameter_text (name before : List Char) (number : PositiveNumber)
    (blank : ∀ c ∈ before, Text.isBlank c = true) :
    parameter name (before ++ number.value.text) = .ok number.value := by
  have solid : ∀ c ∈ number.value.text, Text.isBlank c = false :=
    fun c member => (digit_or_point_solid c (number.mem_text c member)).1
  have trimmed := Text.trim_surrounded before number.value.text [] number.text_ne_nil blank
    (by intro c member; cases member)
    (fun c first => solid c (List.mem_of_mem_head? first))
    (fun c last => solid c (List.mem_of_getLast? last))
  rw [List.append_nil] at trimmed
  unfold parameter
  rw [trimmed, Double.ofText?_text _ number.isFinite number.isPositive]

def parameters (period damping : PositiveNumber) : List Char :=
  if isDefaultDamping damping.value then period.value.text
  else period.value.text ++ ',' :: ' ' :: damping.value.text

theorem ofParameterText_parameters (name : List Char) (period damping : PositiveNumber) :
    ofParameterText name (parameters period damping) = .ok (.spectral period damping) := by
  have commaless : ∀ c ∈ period.value.text, c ≠ ',' :=
    fun c member => (digit_or_point_solid c (period.mem_text c member)).2
  have periodRead := parameter_text name [] period (by intro c member; cases member)
  rw [List.nil_append] at periodRead
  unfold ofParameterText parameters
  by_cases default : isDefaultDamping damping.value = true
  · rw [if_pos default, splitAtComma_alone _ commaless]
    simp only [periodRead, ← (isDefaultDamping_iff damping).1 default]
    exact ofParameters_value period damping
  · have dampingRead := parameter_text name [' '] damping
      (by intro c member; rw [List.mem_singleton.1 member]; decide)
    rw [List.singleton_append] at dampingRead
    rw [if_neg default, splitAtComma_pair _ _ commaless]
    simp only [periodRead, dampingRead]
    exact ofParameters_value period damping

theorem characters_spectral (period damping : PositiveNumber) :
    (spectral period damping).characters = 'S' :: 'A' :: '(' :: (parameters period damping ++ [')']) :=
  rfl

theorem parenthesised?_parameters (inner : List Char) :
    parenthesised? ('(' :: (inner ++ [')'])) = some inner := by
  simp [parenthesised?]

theorem ofText_code (text : String) (kind : MeasureKind) (notSpectral : kind.isSpectral = false)
    (trimmed : Text.trim text.toList = kind.code.toList) :
    ofText text = .ok (.simple kind notSpectral) := by
  unfold ofText
  rw [trimmed]
  cases kind with
  | spectralAcceleration => cases notSpectral
  | peakAcceleration => rfl
  | peakVelocity => rfl
  | peakDisplacement => rfl
  | ariasIntensity => rfl
  | significantDuration => rfl
  | mercalliIntensity => rfl

theorem ofText_parameters (text : String) (period damping : PositiveNumber)
    (trimmed : Text.trim text.toList = (spectral period damping).characters) :
    ofText text = .ok (.spectral period damping) := by
  unfold ofText
  simp only [trimmed, characters_spectral, parenthesised?_parameters]
  exact ofParameterText_parameters _ period damping

theorem characters_ends (measure : Measure) :
    measure.characters ≠ [] ∧
      (∀ c, measure.characters.head? = some c → Text.isBlank c = false) ∧
      (∀ c, measure.characters.getLast? = some c → Text.isBlank c = false) := by
  cases measure with
  | simple kind notSpectral =>
      change kind.code.toList ≠ [] ∧
        (∀ c, kind.code.toList.head? = some c → Text.isBlank c = false) ∧
        (∀ c, kind.code.toList.getLast? = some c → Text.isBlank c = false)
      refine ⟨?_, ?_, ?_⟩
      · cases kind <;> decide
      · intro c first
        cases kind <;> (cases first; decide)
      · intro c last
        cases kind <;> (cases last; decide)
  | spectral period damping =>
      rw [characters_spectral]
      refine ⟨List.cons_ne_nil _ _, ?_, ?_⟩
      · intro c first
        cases first
        decide
      · intro c last
        rw [← List.cons_append, ← List.cons_append, ← List.cons_append,
          List.getLast?_concat] at last
        cases last
        decide

theorem ofText_surrounded (measure : Measure) (before after : String)
    (blankBefore : ∀ c ∈ before.toList, Text.isBlank c = true)
    (blankAfter : ∀ c ∈ after.toList, Text.isBlank c = true) :
    ofText (before ++ measure.text ++ after) = .ok measure := by
  obtain ⟨nonempty, first, last⟩ := measure.characters_ends
  have trimmed : Text.trim (before ++ measure.text ++ after).toList = measure.characters := by
    rw [String.toList_append, String.toList_append, text, String.toList_ofList]
    exact Text.trim_surrounded _ _ _ nonempty blankBefore blankAfter first last
  cases measure with
  | simple kind notSpectral => exact ofText_code _ kind notSpectral trimmed
  | spectral period damping => exact ofText_parameters _ period damping trimmed

theorem ofText_written (measure : Measure) : ofText measure.text = .ok measure := by
  have read := measure.ofText_surrounded "" "" (by intro c member; cases member)
    (by intro c member; cases member)
  rw [String.empty_append, String.append_empty] at read
  exact read

theorem measure_spelling (measure : Measure) : measure.spelling.measure = .ok measure := by
  cases measure with
  | simple kind notSpectral =>
      cases kind with
      | spectralAcceleration => cases notSpectral
      | peakAcceleration => rfl
      | peakVelocity => rfl
      | peakDisplacement => rfl
      | ariasIntensity => rfl
      | significantDuration => rfl
      | mercalliIntensity => rfl
  | spectral period damping => exact ofParameters_value period damping

theorem register_sends (measure : Measure) :
    (Measures.register measure).SendsOnly
      (fun statement => ∀ spelling, statement.spelling? = some spelling → spelling = measure.spelling) := by
  have finds : (Measures.find? measure : Dialogue StoreError _).SendsOnly
      (fun statement => ∀ spelling, statement.spelling? = some spelling → spelling = measure.spelling) :=
    Dialogue.SendsOnly.first? _ _ (by intro spelling impossible; cases impossible)
  apply Dialogue.SendsOnly.bind finds
  intro found
  cases found with
  | some row => exact .done row
  | none =>
      apply Dialogue.SendsOnly.bind
      · exact Dialogue.SendsOnly.first? _ _ (by intro spelling bound; exact (Option.some.inj bound).symm)
      · intro inserted
        cases inserted with
        | some row => exact .note _ _ (.done row)
        | none =>
            apply Dialogue.SendsOnly.bind finds
            intro again
            cases again with
            | some row => exact .done row
            | none => exact .fail _

/-- A registration whose search finds no row goes on to the insertion. -/
theorem register_inserts {σ : Type} (measure : Measure) (server : Server σ) (state after : σ)
    (reply : Reply (.measureByComponents measure.kind.code measure.period? measure.damping?))
    (answered : server.answer _ state = (.ok reply, after)) (nothing : reply.rowList = []) :
    .sent (.registerMeasure measure.text measure.kind.code measure.period? measure.damping?) ∈
      ((Session.ofDialogue (Measures.register measure)).run server state).trace := by
  have found : (Session.ofDialogue (Measures.find? measure : Dialogue StoreError _)).run server
      state = ⟨.ok none, after,
        [.sent (.measureByComponents measure.kind.code measure.period? measure.damping?)]⟩ := by
    have asked : Session.ofDialogue (Measures.find? measure : Dialogue StoreError _) = .ask _ _ :=
      Session.ofDialogue_first?
        (.measureByComponents measure.kind.code measure.period? measure.damping?) Measures.decodeRow
    rw [asked, Session.run_ask, answered]
    simp only [Dialogue.firstOf?, nothing, List.head?_nil]
    rfl
  unfold Measures.register
  rw [Session.ofDialogue_bind, Session.run_bind, found]
  exact List.mem_append_right _ (List.mem_cons_self ..)

/-- The components of a measure are numbers that equal themselves, so measures agree only when they
are the same. -/
theorem agrees_iff (one two : Measure) : one.agrees two = true ↔ one = two := by
  have number (left right : PositiveNumber) :
      left.value.sameNumber right.value = true ↔ left = right := by
    rw [Double.sameNumber_iff_of_positive _ _ left.isFinite left.isPositive]
    constructor
    · intro same
      obtain ⟨value, finite, positive⟩ := left
      subst same
      rfl
    · exact congrArg PositiveNumber.value
  cases one with
  | simple code notSpectral =>
      cases two with
      | simple other otherNot =>
          simp only [agrees, kind, period?, damping?, sameComponent, Bool.and_true, simple.injEq]
          exact decide_eq_true_iff
      | spectral period damping => simp [agrees, period?, sameComponent]
  | spectral period damping =>
      cases two with
      | simple other otherNot => simp [agrees, period?, sameComponent]
      | spectral otherPeriod otherDamping =>
          simp [agrees, kind, period?, damping?, sameComponent, number]

theorem agrees_self (measure : Measure) : measure.agrees measure = true :=
  (agrees_iff measure measure).2 rfl

/-- A measure survives being written, as a text with blanks around it and as the components that its
registration binds, on every server; they are bound whenever the measure has no row yet. And a text
that is read at all is read like the text of what it names. -/
theorem ofText_text (measure : Measure) :
    (∀ before after : String, (∀ c ∈ before.toList, Text.isBlank c = true) →
      (∀ c ∈ after.toList, Text.isBlank c = true) →
      ofText (before ++ measure.text ++ after) = .ok measure ∧ measure.agrees measure = true) ∧
    (∀ {σ : Type} (server : Server σ) (state : σ) (statement : Statement)
      (spelling : ReferenceMeasure), statement.spelling? = some spelling →
      .sent statement ∈ ((Session.ofDialogue (Measures.register measure)).run server state).trace →
      spelling = ⟨measure.text, measure.kind.code, measure.period?, measure.damping?⟩ ∧
        ∀ id, (spelling.row id).measure = .ok measure) ∧
    (∀ {σ : Type} (server : Server σ) (state after : σ)
      (reply : Reply (.measureByComponents measure.kind.code measure.period? measure.damping?)),
      server.answer _ state = (.ok reply, after) → reply.rowList = [] →
      .sent (.registerMeasure measure.text measure.kind.code measure.period? measure.damping?) ∈
        ((Session.ofDialogue (Measures.register measure)).run server state).trace) ∧
    (∀ text, ofText text = .ok measure → ofText measure.text = ofText text) := by
  refine ⟨?_, ?_, ?_, ?_⟩
  · intro before after blankBefore blankAfter
    exact ⟨measure.ofText_surrounded before after blankBefore blankAfter, measure.agrees_self⟩
  · intro σ server state statement spelling bound sent
    have only := Session.SendsOnly.ofDialogue (register_sends measure)
    have same := only.of_mem_trace server state statement sent spelling bound
    subst same
    exact ⟨rfl, fun _ => measure.measure_spelling⟩
  · intro σ server state after reply answered nothing
    exact register_inserts measure server state after reply answered nothing
  · intro text read
    rw [measure.ofText_written, read]

theorem ofText_text_spectral :
    ∃ measure : Measure, measure.text = "SA(0.1, 10)" ∧
      ofText ("\u00a0" ++ "SA(0.1, 10)" ++ "\t") = .ok measure := by
  let tenth : PositiveNumber :=
    ⟨(⟨1, -1⟩ : Decimal).toDouble false, by decide +kernel, by decide +kernel⟩
  let ten : PositiveNumber :=
    ⟨(⟨10, 0⟩ : Decimal).toDouble false, by decide +kernel, by decide +kernel⟩
  have written : (spectral tenth ten).text = "SA(0.1, 10)" := by decide +kernel
  have space : ∀ c ∈ ['\u00a0'], Text.isBlank c = true := List.forall_mem_singleton.2 (by decide)
  have tab : ∀ c ∈ ['\t'], Text.isBlank c = true := List.forall_mem_singleton.2 (by decide)
  refine ⟨spectral tenth ten, written, ?_⟩
  rw [← written]
  exact ((ofText_text (spectral tenth ten)).1 "\u00a0" "\t" space tab).1

end Measure

end HazardStore
