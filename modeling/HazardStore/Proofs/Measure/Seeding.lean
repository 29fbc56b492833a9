import HazardStore.Proofs.Measure.Table
import HazardStore.Proofs.Session.Runs
import HazardStore.Store.Seeding
/-!
What seeding does to any table that its constraints admit. Rows that are there stay, the count is the
number of new rows, and a second seeding adds none. A reference measure is there afterwards exactly
when it was there before or no row had taken its text: a text that stands for other components keeps
its reference measure out, and seeding succeeds all the same.
-/

namespace HazardStore

def ReferenceMeasure.Present (reference : ReferenceMeasure) (rows : List MeasureRow) : Prop :=
  ∃ row ∈ rows, row.spelling.sameComponents reference = true

def ReferenceMeasure.Texted (reference : ReferenceMeasure) (rows : List MeasureRow) : Prop :=
  ∃ row ∈ rows, row.text = reference.text

namespace ReferenceMeasure

instance (reference : ReferenceMeasure) (rows : List MeasureRow) :
    Decidable (reference.Present rows) :=
  inferInstanceAs (Decidable (∃ row ∈ rows, row.spelling.sameComponents reference = true))

theorem clashes_iff (left right : ReferenceMeasure) :
    left.clashes right = true ↔ left.text = right.text ∨ left.sameKey right = true := by
  simp [clashes]

theorem clashes_self (reference : ReferenceMeasure) : reference.clashes reference = true :=
  (clashes_iff _ _).2 (Or.inl rfl)

theorem passesChecks_of_mem_seeds : ∀ reference ∈ seeds, reference.passesChecks = true := by
  decide +kernel

theorem seeds_apart : ∀ left ∈ seeds, ∀ right ∈ seeds, left = right ∨ left.clashes right = false := by
  decide +kernel

end ReferenceMeasure

namespace MeasureInsertion

variable {rows added after : List MeasureRow} {spelling reference : ReferenceMeasure}

theorem clash_after (insertion : MeasureInsertion rows spelling added after) :
    ∃ row ∈ after, row.spelling.clashes spelling = true := by
  cases insertion with
  | added id fresh apart checked =>
      exact ⟨spelling.row id, by simp, spelling.clashes_self⟩
  | skipped row there clash => exact ⟨row, there, clash⟩

theorem added_eq_nil_of_clash (insertion : MeasureInsertion rows spelling added after)
    (row : MeasureRow) (there : row ∈ rows) (clash : row.spelling.clashes spelling = true) :
    added = [] ∧ after = rows := by
  cases insertion with
  | added id fresh apart checked =>
      rw [apart row there] at clash
      cases clash
  | skipped other otherThere otherClash => exact ⟨rfl, rfl⟩

theorem present_iff (insertion : MeasureInsertion rows spelling added after)
    (checkedRows : ∀ row ∈ rows, row.spelling.passesChecks = true)
    (checked : spelling.passesChecks = true) :
    spelling.Present after ↔ spelling.Present rows ∨ ¬spelling.Texted rows := by
  cases insertion with
  | added id fresh apart _ =>
      have there : spelling.Present (rows ++ [spelling.row id]) :=
        ⟨spelling.row id, by simp, spelling.sameComponents_self⟩
      have free : ¬spelling.Texted rows := by
        intro texted
        obtain ⟨row, member, text⟩ := texted
        have clash := (ReferenceMeasure.clashes_iff row.spelling spelling).2 (Or.inl text)
        rw [apart row member] at clash
        cases clash
      exact ⟨fun _ => Or.inr free, fun _ => there⟩
  | skipped row there clash =>
      constructor
      · exact Or.inl
      · intro either
        rcases either with present | free
        · exact present
        -- under the checks the key in the way is that of the components sought
        · rcases (ReferenceMeasure.clashes_iff _ _).1 clash with text | key
          · exact absurd ⟨row, there, text⟩ free
          · rw [ReferenceMeasure.sameKey_eq_sameComponents _ _ (checkedRows row there) checked] at key
            exact ⟨row, there, key⟩

private theorem exists_mem_added_iff (property : MeasureRow → Prop) (last : MeasureRow)
    (without : ¬property last) :
    (∃ row ∈ rows ++ [last], property row) ↔ ∃ row ∈ rows, property row := by
  constructor
  · intro found
    obtain ⟨row, member, holds⟩ := found
    rcases List.mem_append.1 member with old | new
    · exact ⟨row, old, holds⟩
    · rw [List.mem_singleton.1 new] at holds
      exact absurd holds without
  · intro found
    obtain ⟨row, member, holds⟩ := found
    exact ⟨row, List.mem_append_left _ member, holds⟩

theorem present_iff_of_apart (insertion : MeasureInsertion rows spelling added after)
    (checked : reference.passesChecks = true) (apart : spelling.clashes reference = false) :
    (reference.Present after ↔ reference.Present rows) ∧
      (reference.Texted after ↔ reference.Texted rows) := by
  cases insertion with
  | skipped row there clash => exact ⟨Iff.rfl, Iff.rfl⟩
  | added id fresh _ spellingChecked =>
      have noClash : ¬(spelling.text = reference.text ∨ spelling.sameKey reference = true) := by
        rw [← ReferenceMeasure.clashes_iff, apart]
        exact Bool.false_ne_true
      rw [ReferenceMeasure.sameKey_eq_sameComponents _ _ spellingChecked checked] at noClash
      constructor
      · exact exists_mem_added_iff (fun row => row.spelling.sameComponents reference = true)
          (spelling.row id) (fun same => noClash (Or.inr same))
      · exact exists_mem_added_iff (fun row => row.text = reference.text)
          (spelling.row id) (fun same => noClash (Or.inl same))

end MeasureInsertion

/-- Insertions one after the other, with all the rows that they add. -/
inductive MeasureInsertions :
    List MeasureRow → List ReferenceMeasure → List MeasureRow → List MeasureRow → Prop where
  | none (rows : List MeasureRow) : MeasureInsertions rows [] [] rows
  | next {rows here middle later after : List MeasureRow} {spelling : ReferenceMeasure}
      {others : List ReferenceMeasure} (first : MeasureInsertion rows spelling here middle)
      (rest : MeasureInsertions middle others later after) :
      MeasureInsertions rows (spelling :: others) (here ++ later) after

namespace MeasureInsertions

variable {rows added after : List MeasureRow} {references : List ReferenceMeasure}

theorem rows_eq (insertions : MeasureInsertions rows references added after) :
    after = rows ++ added := by
  induction insertions with
  | none rows => exact (List.append_nil rows).symm
  | next first rest ih => rw [ih, first.rows_eq, List.append_assoc]

theorem conforming (insertions : MeasureInsertions rows references added after)
    (conforms : ConformingMeasures rows) : ConformingMeasures after := by
  induction insertions with
  | none rows => exact conforms
  | next first rest ih => exact ih (first.conforming conforms)

theorem clash_after (insertions : MeasureInsertions rows references added after) :
    ∀ reference ∈ references, ∃ row ∈ after, row.spelling.clashes reference = true := by
  induction insertions with
  | none rows =>
      intro reference member
      cases member
  | next first rest ih =>
      intro reference member
      rcases List.mem_cons.1 member with here | later
      · subst here
        obtain ⟨row, there, clash⟩ := first.clash_after
        refine ⟨row, ?_, clash⟩
        rw [rest.rows_eq]
        exact List.mem_append_left _ there
      · exact ih reference later

theorem added_eq_nil (insertions : MeasureInsertions rows references added after)
    (taken : ∀ reference ∈ references, ∃ row ∈ rows, row.spelling.clashes reference = true) :
    added = [] := by
  induction insertions with
  | none rows => rfl
  | next first rest ih =>
      obtain ⟨row, there, clash⟩ := taken _ (List.mem_cons_self ..)
      obtain ⟨nothing, unchanged⟩ := first.added_eq_nil_of_clash row there clash
      subst nothing unchanged
      exact ih (fun reference member => taken reference (List.mem_cons_of_mem _ member))

/-- Of rows that do not stand in each other's way, each is there afterwards if it was before, or if
its text was free. -/
theorem present_iff (insertions : MeasureInsertions rows references added after)
    (reference : ReferenceMeasure) (conforms : ConformingMeasures rows)
    (checked : reference.passesChecks = true)
    (apart : ∀ other ∈ references, other = reference ∨ other.clashes reference = false) :
    reference.Present after ↔
      reference.Present rows ∨ (reference ∈ references ∧ ¬reference.Texted rows) := by
  induction insertions with
  | none rows => simp
  | @next rows here middle later after spelling others first rest ih =>
      have remaining := ih (first.conforming conforms)
        (fun other member => apart other (List.mem_cons_of_mem _ member))
      by_cases same : spelling = reference
      · subst same
        have atFirst := first.present_iff conforms.checked checked
        have kept : middle = rows ∨ spelling.Present middle := by
          cases first with
          | added id fresh free checkedHere =>
              exact Or.inr ⟨spelling.row id, by simp, spelling.sameComponents_self⟩
          | skipped row there clash => exact Or.inl rfl
        rcases kept with unchanged | present
        · subst unchanged
          rw [remaining]
          constructor
          · intro either
            rcases either with present | ⟨_, free⟩
            · exact Or.inl present
            · exact Or.inr ⟨List.mem_cons_self .., free⟩
          · intro either
            rcases either with present | ⟨_, free⟩
            · exact Or.inl present
            · exact Or.inl (atFirst.2 (Or.inr free))
        · have before := atFirst.1 present
          constructor
          · intro _
            exact before.imp_right (fun free => ⟨List.mem_cons_self .., free⟩)
          · intro _
            exact remaining.2 (Or.inl present)
      · have different := (apart spelling (List.mem_cons_self ..)).resolve_left same
        obtain ⟨presentSame, textedSame⟩ := first.present_iff_of_apart checked different
        have later : reference ∈ spelling :: others ↔ reference ∈ others := by
          rw [List.mem_cons]
          exact or_iff_right (fun equal => same equal.symm)
        rw [remaining, presentSame, textedSame, later]

end MeasureInsertions

/-! ### Seeding on a server -/

namespace Seeding

variable {σ ε : Type} [OfFault ε]

theorem insertAll_insertions (server : MeasureServer σ) (references : List ReferenceMeasure)
    (state : σ) (total : Nat)
    (succeeded : ((Session.ofDialogue (insertAll references : Dialogue ε Nat)).run server.toServer
      state).result = .ok total) :
    ∃ added, added.length = total ∧ MeasureInsertions (server.rows state) references added
      (server.rows ((Session.ofDialogue (insertAll references : Dialogue ε Nat)).run server.toServer
        state).state) := by
  induction references generalizing state total with
  | nil =>
      cases succeeded
      exact ⟨[], rfl, .none _⟩
  | cons reference others ih =>
      unfold insertAll at succeeded ⊢
      rw [Session.ofDialogue_bind, Session.run_bind] at succeeded ⊢
      obtain ⟨here, counted, succeeded, moved⟩ := Run.andThen_result_eq_ok.1 succeeded
      rw [moved]
      obtain ⟨reply, middle, answered, affected, reached⟩ :=
        Session.run_count_ok server.toServer _ _ _ counted
      rw [reached] at succeeded ⊢
      obtain ⟨added, first, length⟩ := server.seed_rows reference state reply middle answered
      rw [Session.ofDialogue_bind, Session.run_bind] at succeeded ⊢
      obtain ⟨later, inserted, summed, moved⟩ := Run.andThen_result_eq_ok.1 succeeded
      rw [moved]
      obtain ⟨others, othersLength, rest⟩ := ih middle later inserted
      refine ⟨added ++ others, ?_, ?_⟩
      · have sum : here + later = total := Except.ok.inj summed
        rw [List.length_append, othersLength, ← length, affected]
        exact sum
      · exact .next first rest

theorem seed_insertions (server : MeasureServer σ) (state : σ) (inserted : Nat)
    (succeeded : ((seed : Session ε Nat).run server.toServer state).result = .ok inserted) :
    ∃ added, added.length = inserted ∧
      MeasureInsertions (server.rows state) ReferenceMeasure.seeds added
        (server.rows ((seed : Session ε Nat).run server.toServer state).state) := by
  unfold seed at succeeded ⊢
  rw [Session.run_bind] at succeeded ⊢
  obtain ⟨total, bracketed, noted, moved⟩ := Run.andThen_result_eq_ok.1 succeeded
  cases noted
  rw [moved]
  have kept : ∀ other, ((Session.ofDialogue (do
      return Ending.keep (← insertAll ReferenceMeasure.seeds) : Dialogue ε (Ending Nat))).run
        server.toServer (server.begin state).2).result ≠ .ok (.discard other) := by
    intro other discarded
    rw [Session.ofDialogue_bind, Session.run_bind] at discarded
    obtain ⟨_, _, impossible, _⟩ := Run.andThen_result_eq_ok.1 discarded
    cases impossible
  obtain ⟨worked, committed, ended⟩ :=
    Session.run_bracket_keeps server.toServer _ state inserted kept bracketed
  rw [Session.ofDialogue_bind, Session.run_bind] at worked ended committed
  obtain ⟨count, counted, same, reached⟩ := Run.andThen_result_eq_ok.1 worked
  cases same
  obtain ⟨added, length, insertions⟩ := insertAll_insertions server _ _ _ counted
  refine ⟨added, length, ?_⟩
  rw [Session.run_note, Run.after_state, Session.run_done, ended, server.commit_rows _ committed,
    reached]
  rw [server.begin_rows] at insertions
  exact insertions

/-- A server that refuses neither a transaction nor an insertion for which a row is in place. -/
structure AcceptsRepetition (server : MeasureServer σ) : Prop where
  begins : ∀ state, (server.begin state).1 = .ok ()
  commits : ∀ state, (server.commit state).1 = .ok ()
  answers : ∀ reference state,
    (∃ row ∈ server.rows state, row.spelling.clashes reference = true) →
    ∃ reply, (server.answer (.seedMeasure reference) state).1 = .ok reply

theorem insertAll_succeeds (server : MeasureServer σ) (accepts : AcceptsRepetition server)
    (references : List ReferenceMeasure) (state : σ)
    (taken : ∀ reference ∈ references, ∃ row ∈ server.rows state,
      row.spelling.clashes reference = true) :
    ∃ total, ((Session.ofDialogue (insertAll references : Dialogue ε Nat)).run server.toServer
      state).result = .ok total := by
  induction references generalizing state with
  | nil => exact ⟨0, rfl⟩
  | cons reference others ih =>
      obtain ⟨row, there, clash⟩ := taken reference (List.mem_cons_self ..)
      obtain ⟨reply, replied⟩ := accepts.answers reference state ⟨row, there, clash⟩
      obtain ⟨after, answered⟩ : ∃ after,
          server.answer (.seedMeasure reference) state = (.ok reply, after) :=
        ⟨_, Prod.ext replied rfl⟩
      obtain ⟨added, insertion, _⟩ := server.seed_rows _ _ _ _ answered
      have unchanged := (insertion.added_eq_nil_of_clash row there clash).2
      obtain ⟨more, counted⟩ := ih after (by
        rw [unchanged]
        exact fun other member => taken other (List.mem_cons_of_mem _ member))
      refine ⟨reply.rowsAffected + more, ?_⟩
      unfold insertAll
      rw [Session.ofDialogue_bind, Session.run_bind,
        Session.run_count_of_answer server.toServer _ state after reply answered]
      simp only [Run.andThen, Session.ofDialogue_bind, Session.run_bind, counted]
      rfl

theorem seed_again (server : MeasureServer σ) (state : σ)
    (taken : ∀ reference ∈ ReferenceMeasure.seeds, ∃ row ∈ server.rows state,
      row.spelling.clashes reference = true) :
    (∀ again, ((seed : Session ε Nat).run server.toServer state).result = .ok again → again = 0) ∧
      (AcceptsRepetition server → ((seed : Session ε Nat).run server.toServer state).result = .ok 0) := by
  have nothing : ∀ again,
      ((seed : Session ε Nat).run server.toServer state).result = .ok again → again = 0 := by
    intro again succeeded
    obtain ⟨added, length, insertions⟩ := seed_insertions server state again succeeded
    rw [insertions.added_eq_nil taken] at length
    exact length.symm
  refine ⟨nothing, ?_⟩
  intro accepts
  have begun := accepts.begins state
  obtain ⟨total, counted⟩ : ∃ total, ((Session.ofDialogue (insertAll ReferenceMeasure.seeds :
      Dialogue ε Nat)).run server.toServer (server.begin state).2).result = .ok total := by
    apply insertAll_succeeds server accepts
    rw [server.begin_rows]
    exact taken
  have worked : ((Session.ofDialogue (do
      return Ending.keep (← insertAll ReferenceMeasure.seeds) : Dialogue ε (Ending Nat))).run
        server.toServer (server.begin state).2).result = .ok (.keep total) := by
    simp only [Session.ofDialogue_bind, Session.run_bind, Run.andThen, counted]
    rfl
  have bracketed := Session.run_bracket_of_keep server.toServer _ state total begun worked
    accepts.commits
  have succeeded : ((seed : Session ε Nat).run server.toServer state).result = .ok total := by
    unfold seed
    simp only [Session.run_bind, Run.andThen, bracketed]
    rfl
  rw [succeeded, nothing total succeeded]

/-- A seeding that succeeds on a table within its constraints keeps the rows that were there, adds as
many as it says and leaves nothing for a second one. A reference measure is there afterwards exactly
when it was there before or its text was free. -/
theorem seed_keeps_and_counts (server : MeasureServer σ) (state : σ) (inserted : Nat)
    (conforms : ConformingMeasures (server.rows state))
    (succeeded : ((seed : Session ε Nat).run server.toServer state).result = .ok inserted) :
    let after := ((seed : Session ε Nat).run server.toServer state).state
    (∃ added, server.rows after = server.rows state ++ added ∧ added.length = inserted) ∧
      ConformingMeasures (server.rows after) ∧
      (∀ reference ∈ ReferenceMeasure.seeds, reference.Present (server.rows after) ↔
        reference.Present (server.rows state) ∨ ¬reference.Texted (server.rows state)) ∧
      (∀ again, ((seed : Session ε Nat).run server.toServer after).result = .ok again → again = 0) ∧
      (AcceptsRepetition server →
        ((seed : Session ε Nat).run server.toServer after).result = .ok 0) := by
  intro after
  obtain ⟨added, length, insertions⟩ := seed_insertions server state inserted succeeded
  refine ⟨⟨added, insertions.rows_eq, length⟩, insertions.conforming conforms, ?_,
    seed_again server after insertions.clash_after⟩
  intro reference member
  have present := insertions.present_iff reference conforms
    (ReferenceMeasure.passesChecks_of_mem_seeds reference member)
    (fun other otherMember => ReferenceMeasure.seeds_apart other otherMember reference member)
  rw [present]
  simp only [member, true_and]

theorem acceptsRepetition_table : AcceptsRepetition MeasureTable.server where
  begins _ := rfl
  commits _ := rfl
  answers reference table taken := by
    have clash : table.rows.any (fun row => row.spelling.clashes reference) = true := by
      obtain ⟨row, there, clash⟩ := taken
      exact List.any_eq_true.2 ⟨row, there, clash⟩
    refine ⟨.affected 0, ?_⟩
    change (MeasureTable.answer (.seedMeasure reference) table).1 = _
    simp only [MeasureTable.answer, MeasureTable.insert?, clash, if_true, List.length_nil]

/-- A table that its constraints admit: the text of the spectral reference measure stands for a
longer period. -/
def decoyTable : MeasureTable where
  rows :=
    [{  id := 1
        text := "SA(0.1)"
        code := MeasureKind.spectralAcceleration.code
        period? := some ((⟨2, -1⟩ : Decimal).toDouble false)
        damping? := some Measure.defaultDamping }]
  saved := []

theorem decoyTable_conforming : ConformingMeasures decoyTable.rows where
  identities := List.pairwise_singleton _ _
  apart := List.pairwise_singleton _ _
  checked := by decide +kernel

theorem seed_decoyTable :
    ((seed : Session StoreError Nat).run MeasureTable.server.toServer decoyTable).result = .ok 6 :=
  Run.ok_of_toOption (by decide +kernel)

theorem seed_keeps_and_counts_decoy :
    let after := ((seed : Session StoreError Nat).run MeasureTable.server.toServer decoyTable).state
    (∃ added, MeasureTable.server.rows after = decoyTable.rows ++ added ∧ added.length = 6) ∧
      ((seed : Session StoreError Nat).run MeasureTable.server.toServer after).result = .ok 0 := by
  obtain ⟨rows, _, _, _, again⟩ := seed_keeps_and_counts MeasureTable.server decoyTable 6
    decoyTable_conforming seed_decoyTable
  exact ⟨rows, again acceptsRepetition_table⟩

theorem seed_succeeds_without_reference :
    ConformingMeasures decoyTable.rows ∧
      ((seed : Session StoreError Nat).run MeasureTable.server.toServer decoyTable).result = .ok 6 ∧
      ∃ reference ∈ ReferenceMeasure.seeds,
        ¬reference.Present (MeasureTable.server.rows
          ((seed : Session StoreError Nat).run MeasureTable.server.toServer decoyTable).state) := by
  refine ⟨decoyTable_conforming, seed_decoyTable, ?_⟩
  decide +kernel

end Seeding

end HazardStore
