import HazardStore.Proofs.Rupture.Database
/-!
What the clients of the database can count on while others are at work. The sites of a rupture stay
as they are while a client has it locked, and a rupture that is held for an update gets no field. A
step is allowed to a client that holds what it takes: any lock to store a field of a rupture, and
the lock for an update to write its sites.
-/

namespace HazardStore

namespace Database

/-- What the steps of others leave alone for a client: its transaction, the sites of ruptures it has
locked, and that a rupture it holds for an update has no field. -/
structure Undisturbed (client : Nat) (before after : Database) : Prop where
  transaction : after.transactions client = before.transactions client
  sites : ∀ rupture sites?, before.Holds client rupture → before.committed.Lists rupture sites? →
    after.committed.Lists rupture sites?
  fields : ∀ rupture, before.Owns client rupture → after.committed.Covered rupture →
    before.committed.Covered rupture

/-- Tables are sound, and a rupture held for an update is locked by nobody else. -/
structure Sound (database : Database) : Prop where
  tables : database.committed.Sound
  exclusive : ∀ client other rupture, other ≠ client → database.Owns client rupture →
    ¬database.Holds other rupture

variable {before after database : Database} {client other : Nat} {rupture : RecordId}

theorem holds_iff (same : after.transactions client = before.transactions client) :
    after.Holds client rupture ↔ before.Holds client rupture := by
  unfold Holds
  rw [same]

theorem owns_iff (same : after.transactions client = before.transactions client) :
    after.Owns client rupture ↔ before.Owns client rupture := by
  unfold Owns
  rw [same]

def discipline : Discipline Database where
  Sound := Sound
  Kept before after := before.committed.Kept after.committed
  Undisturbed := Undisturbed
  Idle client database := database.transactions client = none
  kept_refl _ := Tables.Kept.refl _
  kept_trans first second := first.trans second
  undisturbed_refl _ _ :=
    ⟨rfl, fun _ _ _ lists => lists, fun _ _ covered => covered⟩
  undisturbed_trans left right :=
    { transaction := right.transaction.trans left.transaction
      sites := fun rupture sites? holds lists =>
        right.sites rupture sites? ((holds_iff left.transaction).2 holds)
          (left.sites rupture sites? holds lists)
      fields := fun rupture owns covered =>
        left.fields rupture owns (right.fields rupture ((owns_iff left.transaction).2 owns) covered) }
  idle_of_undisturbed undisturbed idle := undisturbed.transaction.trans idle

/-- A step that commits nothing is allowed when the locks it leaves its client with exclude what
they should. -/
theorem allows_of_locks (sound : before.Sound) (same : after.committed = before.committed)
    (others : ∀ other, other ≠ client → after.transactions other = before.transactions other)
    (owned : ∀ rupture, after.Owns client rupture → ∀ other, other ≠ client →
      ¬before.Holds other rupture)
    (held : ∀ rupture, after.Holds client rupture → ∀ other, other ≠ client →
      ¬before.Owns other rupture) :
    discipline.Allows client before after where
  sound := by
    refine ⟨by rw [same]; exact sound.tables, ?_⟩
    intro owner other rupture apart owns holds
    by_cases ownerHere : owner = client
    · subst ownerHere
      exact owned rupture owns other apart ((holds_iff (others other apart)).1 holds)
    · rw [owns_iff (others owner ownerHere)] at owns
      by_cases otherHere : other = client
      · subst otherHere
        exact held rupture holds owner (Ne.symm apart) owns
      · rw [holds_iff (others other otherHere)] at holds
        exact sound.exclusive owner other rupture apart owns holds
  kept := by
    change before.committed.Kept after.committed
    rw [same]
    exact Tables.Kept.refl _
  undisturbed other apart :=
    { transaction := others other apart
      sites := fun rupture sites? _ lists => by rw [same]; exact lists
      fields := fun rupture _ covered => by rw [same] at covered; exact covered }

theorem allows_of_fewer_locks (sound : before.Sound) (same : after.committed = before.committed)
    (others : ∀ other, other ≠ client → after.transactions other = before.transactions other)
    (owned : ∀ rupture, after.Owns client rupture → before.Owns client rupture)
    (held : ∀ rupture, after.Holds client rupture → before.Holds client rupture) :
    discipline.Allows client before after :=
  allows_of_locks sound same others
    (fun rupture owns other apart =>
      sound.exclusive client other rupture apart (owned rupture owns))
    (fun rupture holds other apart owns =>
      sound.exclusive other client rupture (Ne.symm apart) owns (held rupture holds))

/-- What a client has to hold before it commits a change. -/
structure Entitled (database : Database) (client : Nat) (change : Change) : Prop where
  admissible : change.Admissible database.committed
  reassigns : ∀ rupture, change.Reassigns rupture → database.Owns client rupture
  covers : ∀ rupture, change.Covers database.committed rupture → database.Holds client rupture

theorem Entitled.of_insertion {change : Change}
    (insertion : (∃ row, change = .addRupture row) ∨ ∃ row, change = .addEvent row)
    (admissible : change.Admissible database.committed) : database.Entitled client change where
  admissible := admissible
  reassigns rupture here := by
    obtain ⟨sites, same⟩ := here
    subst same
    rcases insertion with ⟨row, impossible⟩ | ⟨row, impossible⟩
    · cases impossible
    · cases impossible
  covers rupture here := by
    obtain ⟨field, same, _⟩ := here
    subst same
    rcases insertion with ⟨row, impossible⟩ | ⟨row, impossible⟩
    · cases impossible
    · cases impossible

/-- A step that commits a change is allowed to a client that is entitled to it. -/
theorem allows_of_change {change : Change} (sound : before.Sound)
    (entitled : before.Entitled client change)
    (same : after.committed = change.apply before.committed)
    (others : ∀ other, other ≠ client → after.transactions other = before.transactions other)
    (owned : ∀ rupture, after.Owns client rupture → before.Owns client rupture)
    (held : ∀ rupture, after.Holds client rupture → before.Holds client rupture) :
    discipline.Allows client before after := by
  -- locks change as in a step that commits nothing
  have locks : discipline.Allows client before { after with committed := before.committed } :=
    allows_of_fewer_locks sound rfl others owned held
  refine ⟨⟨?_, locks.sound.exclusive⟩, ?_, ?_⟩
  · rw [same]
    exact Change.sound_apply sound.tables entitled.admissible
  · change before.committed.Kept after.committed
    rw [same]
    exact Change.kept_apply entitled.admissible
  · intro other apart
    refine ⟨others other apart, ?_, ?_⟩
    · intro rupture sites? holds lists
      rw [same]
      apply Change.lists_apply lists
      intro reassigns
      exact sound.exclusive client other rupture apart (entitled.reassigns rupture reassigns) holds
    · intro rupture owns covered
      rw [same] at covered
      rcases Change.covered_of_apply sound.tables entitled.admissible covered with old | new
      · exact old
      · exact absurd (entitled.covers rupture new)
          (sound.exclusive other client rupture (Ne.symm apart) owns)

theorem holds_later (holds : before.Holds client rupture)
    (moved : discipline.Later client before after) : after.Holds client rupture :=
  (holds_iff moved.undisturbed.transaction).2 holds

theorem owns_later (owns : before.Owns client rupture)
    (moved : discipline.Later client before after) : after.Owns client rupture :=
  (owns_iff moved.undisturbed.transaction).2 owns

def Pending (database : Database) (client : Nat) (changes : List Change) : Prop :=
  ∃ transaction, database.transactions client = some transaction ∧ transaction.changes = changes

section Pending

variable {changes : List Change} {ruptures : List RecordId} {change : Change}

theorem Pending.later (pending : before.Pending client changes)
    (moved : discipline.Later client before after) : after.Pending client changes := by
  obtain ⟨transaction, present, same⟩ := pending
  exact ⟨transaction, moved.undisturbed.transaction.trans present, same⟩

theorem Pending.view (pending : database.Pending client []) :
    database.view client = database.committed := by
  obtain ⟨transaction, present, same⟩ := pending
  simp only [Database.view, present, same, List.foldl_nil]

theorem Pending.view_singleton (pending : database.Pending client [change]) :
    database.view client = change.apply database.committed := by
  obtain ⟨transaction, present, same⟩ := pending
  simp only [Database.view, present, same, List.foldl_cons, List.foldl_nil]

theorem Pending.own (pending : database.Pending client changes) :
    (database.own client ruptures).Pending client changes ∧
      ∀ rupture, rupture ∈ ruptures ∨ database.Owns client rupture →
        (database.own client ruptures).Owns client rupture := by
  obtain ⟨transaction, present, same⟩ := pending
  have found : (database.own client ruptures).transactions client =
      some { transaction with owned := ruptures ++ transaction.owned } := by
    simp only [Database.own, setTransaction_self, present, Option.map_some]
  refine ⟨⟨_, found, same⟩, ?_⟩
  intro rupture owned
  rcases owned with member | ⟨old, oldPresent, member⟩
  · exact ⟨_, found, List.mem_append_left _ member⟩
  · rw [present] at oldPresent
    cases oldPresent
    exact ⟨_, found, List.mem_append_right _ member⟩

theorem Pending.share (pending : database.Pending client changes) :
    (database.share client ruptures).Pending client changes ∧
      ∀ rupture ∈ ruptures, (database.share client ruptures).Holds client rupture := by
  obtain ⟨transaction, present, same⟩ := pending
  have found : (database.share client ruptures).transactions client =
      some { transaction with shared := ruptures ++ transaction.shared } := by
    simp only [Database.share, setTransaction_self, present, Option.map_some]
  exact ⟨⟨_, found, same⟩, fun rupture member => ⟨_, found, Or.inl (List.mem_append_left _ member)⟩⟩

theorem Pending.record (pending : database.Pending client changes) :
    (database.record client change).Pending client (changes ++ [change]) ∧
      (database.record client change).committed = database.committed ∧
      (∀ rupture, database.Owns client rupture →
        (database.record client change).Owns client rupture) ∧
      ∀ rupture, database.Holds client rupture →
        (database.record client change).Holds client rupture := by
  obtain ⟨transaction, present, same⟩ := pending
  have recorded : database.record client change = database.setTransaction client
      (some { transaction with changes := transaction.changes ++ [change] }) := by
    simp only [Database.record, present]
  rw [recorded]
  refine ⟨⟨_, setTransaction_self _ _ _, by rw [same]⟩, rfl, ?_, ?_⟩
  · intro rupture owns
    obtain ⟨old, found, member⟩ := owns
    rw [present] at found
    cases found
    exact ⟨_, setTransaction_self _ _ _, member⟩
  · intro rupture holds
    obtain ⟨old, found, member⟩ := holds
    rw [present] at found
    cases found
    exact ⟨_, setTransaction_self _ _ _, member⟩

theorem allows_setTransaction (sound : database.Sound) (transaction? : Option Transaction)
    (owned : ∀ transaction ∈ transaction?, ∀ rupture ∈ transaction.owned, ∀ other, other ≠ client →
      ¬database.Holds other rupture)
    (shared : ∀ transaction ∈ transaction?, ∀ rupture ∈ transaction.shared, ∀ other,
      other ≠ client → ¬database.Owns other rupture) :
    discipline.Allows client database (database.setTransaction client transaction?) := by
  refine allows_of_locks sound rfl (fun other apart => setTransaction_other _ _ apart) ?_ ?_
  · intro rupture owns
    obtain ⟨transaction, found, member⟩ := owns
    rw [setTransaction_self] at found
    exact owned transaction found rupture member
  · intro rupture holds other apart owns
    obtain ⟨transaction, found, member⟩ := holds
    rw [setTransaction_self] at found
    rcases member with memberShared | memberOwned
    · exact shared transaction found rupture memberShared other apart owns
    · exact owned transaction found rupture memberOwned other apart owns.holds

theorem allows_begin (sound : database.Sound) :
    discipline.Allows client database (database.setTransaction client (some .opened)) := by
  apply allows_setTransaction sound
  · intro transaction found rupture member
    cases found
    cases member
  · intro transaction found rupture member
    cases found
    cases member

theorem allows_rollback (sound : database.Sound) :
    discipline.Allows client database (database.setTransaction client none) := by
  apply allows_setTransaction sound
  · intro transaction found
    cases found
  · intro transaction found
    cases found

theorem allows_own (sound : database.Sound) (free : database.Unheld client ruptures) :
    discipline.Allows client database (database.own client ruptures) := by
  apply allows_setTransaction sound
  · intro transaction found rupture member other apart
    obtain ⟨old, present, same⟩ := Option.map_eq_some_iff.1 found
    subst same
    rcases List.mem_append.1 member with new | owned
    · exact free rupture new other apart
    · exact sound.exclusive client other rupture apart ⟨old, present, owned⟩
  · intro transaction found rupture member other apart owns
    obtain ⟨old, present, same⟩ := Option.map_eq_some_iff.1 found
    subst same
    exact sound.exclusive other client rupture (Ne.symm apart) owns ⟨old, present, Or.inl member⟩

theorem allows_share (sound : database.Sound) (free : database.Unowned client ruptures) :
    discipline.Allows client database (database.share client ruptures) := by
  apply allows_setTransaction sound
  · intro transaction found rupture member other apart
    obtain ⟨old, present, same⟩ := Option.map_eq_some_iff.1 found
    subst same
    exact sound.exclusive client other rupture apart ⟨old, present, member⟩
  · intro transaction found rupture member other apart owns
    obtain ⟨old, present, same⟩ := Option.map_eq_some_iff.1 found
    subst same
    rcases List.mem_append.1 member with new | shared
    · exact free rupture new other apart owns
    · exact sound.exclusive other client rupture (Ne.symm apart) owns ⟨old, present, Or.inl shared⟩

theorem allows_record (sound : database.Sound) (pending : database.Pending client changes) :
    discipline.Allows client database (database.record client change) := by
  obtain ⟨old, present, _⟩ := pending
  simp only [record, present]
  apply allows_setTransaction sound
  · intro transaction found rupture member other apart
    cases found
    exact sound.exclusive client other rupture apart ⟨old, present, member⟩
  · intro transaction found rupture member other apart owns
    cases found
    exact sound.exclusive other client rupture (Ne.symm apart) owns ⟨old, present, Or.inl member⟩

theorem allows_keep (sound : database.Sound) (pending : database.Pending client [change])
    (entitled : database.Entitled client change) :
    discipline.Allows client database (database.keep client) := by
  refine allows_of_change sound entitled pending.view_singleton
    (fun other apart => setTransaction_other _ _ apart) ?_ ?_
  · intro rupture owns
    obtain ⟨transaction, found, member⟩ := owns
    simp only [keep, setTransaction_self] at found
    cases found
  · intro rupture holds
    obtain ⟨transaction, found, member⟩ := holds
    simp only [keep, setTransaction_self] at found
    cases found

end Pending

theorem allows_record_idle {change : Change} (sound : database.Sound)
    (idle : database.transactions client = none) (entitled : database.Entitled client change) :
    discipline.Allows client database (database.record client change) ∧
      (database.record client change).committed = change.apply database.committed := by
  have recorded : database.record client change =
      { database with committed := change.apply database.committed } := by
    simp only [record, idle]
  rw [recorded]
  exact ⟨allows_of_change sound entitled rfl (fun _ _ => rfl) (fun _ owns => owns)
    (fun _ holds => holds), rfl⟩

end Database

end HazardStore
