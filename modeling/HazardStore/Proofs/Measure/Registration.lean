import Mathlib.Data.List.Nodup
import Mathlib.Data.List.Pairwise
import HazardStore.Proofs.Measure.Seeding
import HazardStore.Proofs.Session.Concurrent
/-!
Registrations that are under way at the same time, on a table of measures that was seeded and that
nobody else writes. Every row then spells a measure, text and components alike, so that a row stands
in the way of another one by its text exactly when it does by its components; a registration that
was too late finds the row of the winner.
-/

namespace HazardStore

namespace Measure

theorem presence_spelling (measure : Measure) : measure.spelling.passesChecks = true := by
  cases measure with
  | simple code notSpectral =>
      cases code with
      | spectralAcceleration => cases notSpectral
      | peakAcceleration => rfl
      | peakVelocity => rfl
      | peakDisplacement => rfl
      | ariasIntensity => rfl
      | significantDuration => rfl
      | mercalliIntensity => rfl
  | spectral period damping => rfl

theorem text_injective {one two : Measure} (same : one.text = two.text) : one = two := by
  have read := one.ofText_written
  rw [same, two.ofText_written] at read
  exact (Except.ok.inj read).symm

theorem sameComponents_spelling (one two : Measure) :
    one.spelling.sameComponents two.spelling = true ↔ one = two := by
  have number (left right : PositiveNumber) :
      left.value.sameStored right.value = left.value.sameNumber right.value := by
    apply Bool.eq_iff_iff.2
    rw [Double.sameStored_iff_of_positive _ _ left.isFinite left.isPositive,
      Double.sameNumber_iff_of_positive _ _ left.isFinite left.isPositive]
  have codes : (one.kind.code == two.kind.code) = decide (one.kind = two.kind) := by
    apply Bool.eq_iff_iff.2
    rw [beq_iff_eq, decide_eq_true_iff]
    exact ⟨MeasureKind.code_injective, congrArg MeasureKind.code⟩
  have cells : one.spelling.sameComponents two.spelling = one.agrees two := by
    simp only [ReferenceMeasure.sameComponents, agrees, spelling, codes]
    cases one <;> cases two <;>
      simp only [period?, damping?, ReferenceMeasure.sameCell, sameComponent, number]
  rw [cells]
  exact agrees_iff one two

theorem clashes_spelling (one two : Measure) :
    one.spelling.clashes two.spelling = true ↔ one = two := by
  rw [ReferenceMeasure.clashes_iff,
    ReferenceMeasure.sameKey_eq_sameComponents _ _ one.presence_spelling two.presence_spelling,
    sameComponents_spelling]
  constructor
  · intro either
    rcases either with text | same
    · exact text_injective text
    · exact same
  · exact Or.inr

end Measure

/-- A table within its constraints in which every row spells a measure. -/
structure SpelledMeasures (rows : List MeasureRow) : Prop extends ConformingMeasures rows where
  spelled : ∀ row ∈ rows, ∃ measure : Measure, row.spelling = measure.spelling

structure SeededMeasures (rows : List MeasureRow) : Prop where
  identities : rows.Pairwise (fun left right => left.id ≠ right.id)
  spellings : (rows.map MeasureRow.spelling).Perm ReferenceMeasure.seeds

structure Measure.RowIn (measure : Measure) (rows : List MeasureRow) (row : MeasureRow) : Prop where
  there : row ∈ rows
  spelled : row.spelling = measure.spelling

namespace ReferenceMeasure

theorem seeds_spelled : ∀ reference ∈ seeds, ∃ measure : Measure, reference = measure.spelling := by
  have spelled : ∀ reference ∈ seeds,
      reference.measure.toOption.map Measure.spelling = some reference := by decide +kernel
  intro reference member
  obtain ⟨measure, _, same⟩ := Option.map_eq_some_iff.1 (spelled reference member)
  exact ⟨measure, same.symm⟩

theorem clashes_comm (left right : ReferenceMeasure) :
    left.clashes right = right.clashes left := by
  simp only [clashes, sameKey, Bool.beq_comm (a := left.text), Bool.beq_comm (a := left.code),
    Double.sameStored_comm (left.period?.getD absentKey),
    Double.sameStored_comm (left.damping?.getD absentKey)]

theorem seeds_pairwise : seeds.Pairwise (fun left right => left.clashes right = false) := by
  decide +kernel

end ReferenceMeasure

theorem SeededMeasures.spelled {rows : List MeasureRow} (seeded : SeededMeasures rows) :
    SpelledMeasures rows where
  identities := seeded.identities
  apart := by
    have symmetric {left right : ReferenceMeasure} (apart : left.clashes right = false) :
        right.clashes left = false := by
      rw [ReferenceMeasure.clashes_comm]
      exact apart
    have pairwise := (seeded.spellings.pairwise_iff symmetric).2 ReferenceMeasure.seeds_pairwise
    exact List.pairwise_map.1 pairwise
  checked row there := ReferenceMeasure.passesChecks_of_mem_seeds _
    (seeded.spellings.mem_iff.1 (List.mem_map_of_mem there))
  spelled row there := ReferenceMeasure.seeds_spelled _
    (seeded.spellings.mem_iff.1 (List.mem_map_of_mem there))

namespace SpelledMeasures

variable {rows added after : List MeasureRow} {measure other : Measure} {row further : MeasureRow}

theorem insertion (spelled : SpelledMeasures rows)
    (insertion : MeasureInsertion rows measure.spelling added after) : SpelledMeasures after where
  toConformingMeasures := insertion.conforming spelled.toConformingMeasures
  spelled := by
    intro row there
    rw [insertion.rows_eq] at there
    rcases List.mem_append.1 there with old | new
    · exact spelled.spelled row old
    · cases insertion with
      | added id fresh apart checked =>
          rw [List.mem_singleton.1 new]
          exact ⟨measure, rfl⟩
      | skipped blocking blockingThere clash => cases new

theorem rowIn_of_clash (spelled : SpelledMeasures rows) (there : row ∈ rows)
    (clash : row.spelling.clashes measure.spelling = true) : measure.RowIn rows row := by
  obtain ⟨owner, same⟩ := spelled.spelled row there
  rw [same, Measure.clashes_spelling] at clash
  subst clash
  exact ⟨there, same⟩

theorem rowIn_of_sameComponents (spelled : SpelledMeasures rows) (there : row ∈ rows)
    (same : row.spelling.sameComponents measure.spelling = true) : measure.RowIn rows row := by
  obtain ⟨owner, spelling⟩ := spelled.spelled row there
  rw [spelling, Measure.sameComponents_spelling] at same
  subst same
  exact ⟨there, spelling⟩

theorem id_eq_iff (spelled : SpelledMeasures rows) (one : measure.RowIn rows row)
    (two : other.RowIn rows further) : row.id = further.id ↔ measure = other := by
  constructor
  · intro same
    have distinct : (rows.map MeasureRow.id).Nodup := List.pairwise_map.2 spelled.identities
    have equal := List.inj_on_of_nodup_map distinct one.there two.there same
    rw [equal] at one
    apply (Measure.clashes_spelling measure other).1
    rw [one.spelled.symm.trans two.spelled]
    exact ReferenceMeasure.clashes_self _
  · intro same
    subst same
    by_contra different
    have rowsApart : row ≠ further := fun equal => different (congrArg MeasureRow.id equal)
    have symmetric : Std.Symm (fun left right : MeasureRow =>
        left.spelling.clashes right.spelling = false) :=
      ⟨fun left right apart => by rw [ReferenceMeasure.clashes_comm]; exact apart⟩
    have apart := spelled.apart.forall one.there two.there rowsApart
    rw [one.spelled, two.spelled, ReferenceMeasure.clashes_self] at apart
    cases apart

end SpelledMeasures

theorem Measure.RowIn.grown {measure : Measure} {rows later : List MeasureRow} {row : MeasureRow}
    (rowIn : measure.RowIn rows row) (grown : rows <+: later) : measure.RowIn later row :=
  ⟨grown.subset rowIn.there, rowIn.spelled⟩

/-! ### One registration among others -/

namespace MeasureServer

variable {σ : Type} (server : MeasureServer σ)

def discipline : Discipline σ where
  Sound state := SpelledMeasures (server.rows state)
  Kept before after := server.rows before <+: server.rows after
  Undisturbed _ _ _ := True
  Idle _ _ := True
  kept_refl _ := List.prefix_refl _
  kept_trans first second := first.trans second
  undisturbed_refl _ _ := trivial
  undisturbed_trans _ _ := trivial
  idle_of_undisturbed _ _ := trivial

variable {server} {client : Nat} {before after : σ} {measure : Measure}

theorem allows_of_rows_eq (sound : server.discipline.Sound before)
    (same : server.rows after = server.rows before) :
    server.discipline.Allows client before after where
  sound := by
    change SpelledMeasures (server.rows after)
    rw [same]
    exact sound
  kept := ⟨[], by rw [List.append_nil, same]⟩
  undisturbed _ _ := trivial

theorem allows_of_insertion {added : List MeasureRow} (sound : server.discipline.Sound before)
    (insertion : MeasureInsertion (server.rows before) measure.spelling added (server.rows after)) :
    server.discipline.Allows client before after where
  sound := SpelledMeasures.insertion sound insertion
  kept := ⟨added, insertion.rows_eq.symm⟩
  undisturbed _ _ := trivial

def Found (server : MeasureServer σ) (measure : Measure) (start state : σ) :
    Except StoreError (Option MeasureRow) → Prop
  | .ok (some row) => measure.RowIn (server.rows state) row
  | .ok none => ∀ row, ¬measure.RowIn (server.rows start) row
  | .error error => ∃ fault, error = .database fault

def Inserted (server : MeasureServer σ) (measure : Measure) (state : σ) :
    Except StoreError (Option MeasureRow) → Prop
  | .ok (some row) => measure.RowIn (server.rows state) row
  | .ok none => ∃ row, measure.RowIn (server.rows state) row
  | .error error => ∃ fault, error = .database fault

/-- What a registration gives: the row of its measure, and never a conflict. -/
def Registered (server : MeasureServer σ) (measure : Measure) (state : σ) :
    Except StoreError MeasureRow → Prop
  | .ok row => measure.RowIn (server.rows state) row
  | .error error => ∃ fault, error = .database fault

theorem find?_secure (server : MeasureServer σ) (measure : Measure) (client : Nat) (state : σ) :
    (Session.ofDialogue (Measures.find? measure)).Secure server.toServer.shared server.discipline
      client (server.Found measure state) state := by
  apply Session.Secure.first?
  intro later moved outcome after answered
  cases outcome with
  | error error =>
      exact ⟨allows_of_rows_eq moved.sound (server.refused_rows _ _ _ _ answered),
        fun _ _ => ⟨.server error, rfl⟩⟩
  | ok reply =>
      obtain ⟨same, listed⟩ := server.search_rows _ _ _ _ _ _ answered
      refine ⟨allows_of_rows_eq moved.sound same, ?_⟩
      intro further onward
      have spelled : SpelledMeasures (server.rows later) := moved.sound
      have grown : server.rows later <+: server.rows further := by
        rw [← same]
        exact onward.kept
      simp only [Dialogue.firstOf?]
      cases first : reply.rowList.head? with
      | none =>
          intro row rowIn
          have nothing : reply.rowList = [] := List.head?_eq_none_iff.1 first
          have current := rowIn.grown moved.kept
          have answers : row.cells ∈ reply.rowList := by
            apply listed.mem_iff.2
            apply List.mem_map_of_mem
            apply List.mem_filter.2
            refine ⟨current.there, ?_⟩
            change row.spelling.sameComponents measure.spelling = true
            rw [current.spelled]
            exact ReferenceMeasure.sameComponents_self _
          rw [nothing] at answers
          cases answers
      | some cells =>
          have member : cells ∈ reply.rowList := List.mem_of_mem_head? first
          obtain ⟨row, chosen, same⟩ := List.mem_map.1 (listed.mem_iff.1 member)
          obtain ⟨there, components⟩ := List.mem_filter.1 chosen
          subst same
          exact (spelled.rowIn_of_sameComponents there components).grown grown

theorem insert?_secure (server : MeasureServer σ) (measure : Measure) (client : Nat) (state : σ) :
    (Session.ofDialogue (Measures.insert? measure)).Secure server.toServer.shared server.discipline
      client (server.Inserted measure) state := by
  apply Session.Secure.first?
  intro later moved outcome after answered
  cases outcome with
  | error error =>
      exact ⟨allows_of_rows_eq moved.sound (server.refused_rows _ _ _ _ answered),
        fun _ _ => ⟨.server error, rfl⟩⟩
  | ok reply =>
      obtain ⟨added, insertion, listed⟩ := server.register_rows _ _ _ _ _ _ _ answered
      refine ⟨allows_of_insertion moved.sound insertion, ?_⟩
      intro further onward
      have grown : server.rows after <+: server.rows further := onward.kept
      simp only [Dialogue.firstOf?, listed]
      generalize server.rows after = rows at insertion grown
      cases insertion with
      | added id fresh apart checked =>
          have written : measure.RowIn (server.rows later ++ [measure.spelling.row id])
              (measure.spelling.row id) :=
            ⟨List.mem_append_right _ (List.mem_singleton_self _), rfl⟩
          exact written.grown grown
      | skipped row there clash =>
          exact ⟨row, (SpelledMeasures.rowIn_of_clash moved.sound there clash).grown grown⟩

theorem register_secure (server : MeasureServer σ) (measure : Measure) (client : Nat) (state : σ)
    (sound : server.discipline.Sound state) :
    (Session.ofDialogue (Measures.register measure)).Secure server.toServer.shared server.discipline
      client (server.Registered measure) state := by
  unfold Measures.register
  rw [Session.ofDialogue_bind]
  apply Session.Secure.bind sound (server.find?_secure measure client state)
  · intro found later laterSound looked
    cases found with
    | some row => exact fun further onward => looked.grown onward.kept
    | none =>
        rw [Session.ofDialogue_bind]
        apply Session.Secure.bind laterSound (server.insert?_secure measure client later)
        · intro inserted next nextSound written
          cases inserted with
          | some row => exact fun further onward => written.grown onward.kept
          | none =>
              obtain ⟨winner, rowIn⟩ := written
              unfold Measures.findAgain
              rw [Session.ofDialogue_bind]
              apply Session.Secure.bind nextSound (server.find?_secure measure client next)
              · intro again last lastSound looked
                cases again with
                | some row => exact fun further onward => looked.grown onward.kept
                | none => exact absurd rowIn (looked winner)
              · intro error last _ failed
                exact failed
        · intro error next _ failed
          exact failed
  · intro error later _ failed
    exact failed

def registrations (server : MeasureServer σ) : Service σ Measure StoreError MeasureRow where
  store := server.toServer.shared
  session measure := Session.ofDialogue (Measures.register measure)
  Admits _ _ := True

theorem registrations_start (server : MeasureServer σ) (first : σ) :
    Traffic.Starts server.registrations server.discipline (fun _ => server.Registered) first :=
  fun _ measure client holds _ _ _ => server.register_secure measure client _ holds.sound

theorem registrations_hold (server : MeasureServer σ) (state : σ)
    (seeded : SeededMeasures (server.rows state)) (traffic : Traffic σ Measure StoreError MeasureRow)
    (reached : Traffic.Reaches server.registrations ⟨state, []⟩ traffic) :
    Traffic.Holds server.registrations server.discipline (fun _ => server.Registered) traffic :=
  ((Traffic.Holds.empty state seeded.spelled (fun _ => trivial)).reaches
    (server.registrations_start state) reached).1

/-- Registrations on the seeded table, any number of them and in any order of their statements: none
meets a conflict, each gives a row of its own measure, two give the same row exactly when their
measures agree, rows stay as they are, and every text names what its components stand for. -/
theorem registrations_agree (server : MeasureServer σ) (state : σ)
    (seeded : SeededMeasures (server.rows state)) (traffic : Traffic σ Measure StoreError MeasureRow)
    (reached : Traffic.Reaches server.registrations ⟨state, []⟩ traffic) :
    (∀ call ∈ traffic.calls, ∀ cause, call.session ≠ .fail (.conflict cause)) ∧
      (∀ call ∈ traffic.calls, ∀ row, call.session = .done row →
        row.measure = .ok call.request) ∧
      (∀ one ∈ traffic.calls, ∀ two ∈ traffic.calls, ∀ row other, one.session = .done row →
        two.session = .done other →
        (row.id = other.id ↔ one.request.agrees two.request = true)) ∧
      (∀ later, Traffic.Reaches server.registrations traffic later →
        server.rows traffic.store <+: server.rows later.store) ∧
      (∀ row ∈ server.rows traffic.store, ∃ measure,
        Measure.ofText row.text = .ok measure ∧ row.measure = .ok measure) := by
  have holds := registrations_hold server state seeded traffic reached
  have spelled : SpelledMeasures (server.rows traffic.store) := holds.sound
  have given (call : Call Measure StoreError MeasureRow) (member : call ∈ traffic.calls)
      (row : MeasureRow) (done : call.session = .done row) :
      call.request.RowIn (server.rows traffic.store) row := by
    obtain ⟨client, there⟩ := List.mem_iff_getElem?.1 member
    exact (holds.ended there).1 row done
  refine ⟨?_, ?_, ?_, ?_, ?_⟩
  · intro call member cause failed
    obtain ⟨client, there⟩ := List.mem_iff_getElem?.1 member
    obtain ⟨fault, database⟩ := (holds.ended there).2 _ failed
    cases database
  · intro call member row done
    have rowIn := given call member row done
    rw [← MeasureRow.measure_spelling, rowIn.spelled]
    exact call.request.measure_spelling
  · intro one oneMember two twoMember row other oneDone twoDone
    rw [Measure.agrees_iff]
    exact spelled.id_eq_iff (given one oneMember row oneDone) (given two twoMember other twoDone)
  · intro later onward
    exact (holds.reaches (server.registrations_start _) onward).2
  · intro row there
    obtain ⟨measure, same⟩ := spelled.spelled row there
    refine ⟨measure, ?_, ?_⟩
    · have text : row.text = measure.text := congrArg ReferenceMeasure.text same
      rw [text]
      exact measure.ofText_written
    · rw [← MeasureRow.measure_spelling, same]
      exact measure.measure_spelling

end MeasureServer

namespace MeasureTable

def seeded : MeasureTable where
  rows := ReferenceMeasure.seeds.mapIdx (fun index reference =>
    reference.row (Int64.ofNat (index + 1)))
  saved := []

theorem seeded_seeded : SeededMeasures seeded.rows where
  identities := by decide +kernel
  spellings := by
    have spellings : seeded.rows.map MeasureRow.spelling = ReferenceMeasure.seeds := by
      decide +kernel
    rw [spellings]

/-- Two clients search for the same new measure before either of them inserts it. -/
def race (measure : Measure) : Traffic MeasureTable Measure StoreError MeasureRow :=
  [.start measure, .start measure, .move 0, .move 1, .move 1, .move 1, .move 0, .move 0].foldl
    (Traffic.take server.toServer (fun measure => Session.ofDialogue (Measures.register measure)))
    ⟨seeded, []⟩

theorem race_reached (measure : Measure) :
    Traffic.Reaches server.registrations ⟨seeded, []⟩ (race measure) :=
  Traffic.reaches_take _ _ _ _

end MeasureTable

/-- The loser of a race gives the row of the winner. -/
theorem MeasureServer.registrations_agree_race :
    ∃ (measure : Measure) (row : MeasureRow), measure.text = "SA(0.3, 10)" ∧
      (MeasureTable.race measure).calls.map (fun call => (call.request, call.given?)) =
        [(measure, some row), (measure, some row)] ∧
      row.measure = .ok measure := by
  let measure : Measure := .spectral
    ⟨(⟨3, -1⟩ : Decimal).toDouble false, by decide +kernel, by decide +kernel⟩
    ⟨(⟨10, 0⟩ : Decimal).toDouble false, by decide +kernel, by decide +kernel⟩
  let row : MeasureRow := measure.spelling.row 8
  have ends : (MeasureTable.race measure).calls.map (fun call => (call.request, call.given?)) =
      [(measure, some row), (measure, some row)] := by decide +kernel
  refine ⟨measure, row, by decide +kernel, ends, ?_⟩
  have agree := registrations_agree MeasureTable.server MeasureTable.seeded
    MeasureTable.seeded_seeded (MeasureTable.race measure) (MeasureTable.race_reached measure)
  have member : (measure, some row) ∈
      (MeasureTable.race measure).calls.map (fun call => (call.request, call.given?)) := by
    rw [ends]
    exact List.mem_cons_self ..
  obtain ⟨call, there, same⟩ := List.mem_map.1 member
  obtain ⟨request, given⟩ := Prod.mk.inj same
  rw [← request]
  exact agree.2.1 call there row (call.session_of_given? row given)

end HazardStore
