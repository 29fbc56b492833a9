import HazardStore.Proofs.Rupture.Discipline
/-!
Site indices and fields under concurrent work. A client that stores a field shares the rupture until
the field is committed; one that writes site indices holds the rupture for an update and has counted
its fields under that lock. No order of their statements leaves a field that does not fit the sites
of its rupture, or changes the sites of a rupture that has a field.
-/

namespace HazardStore

namespace Database

variable {before after database : Database} {client : Nat}

/-- What a transaction has to have done when it asks to be kept. -/
inductive Committable (client : Nat) (database : Database) : Prop where
  /-- It stores a field that fits the sites of a rupture that it has locked. -/
  | field (row : FieldRow) (event : EventRow) (sites? : Option (List SiteId))
      (pending : database.Pending client [.addField row])
      (there : event ∈ database.committed.events) (id : event.id = row.event)
      (holds : database.Holds client event.rupture)
      (lists : database.committed.Lists event.rupture sites?)
      (accepted : GroundMotion.checkField sites? row.values = .ok ())
  /-- It writes the sites of a rupture without fields that it holds for an update. -/
  | sites (rupture : RecordId) (sites : List SiteId)
      (pending : database.Pending client [.assignSites rupture sites])
      (owns : database.Owns client rupture) (free : ¬database.committed.Covered rupture)
      (accepted : GroundMotion.checkSites sites = .ok ())

theorem Committable.later (committable : before.Committable client)
    (moved : discipline.Later client before after) : after.Committable client := by
  cases committable with
  | field row event sites? pending there id holds lists accepted =>
      exact .field row event sites? (pending.later moved) (moved.kept.events event there) id
        (holds_later holds moved) (moved.undisturbed.sites _ _ holds lists) accepted
  | sites rupture sites pending owns free accepted =>
      exact .sites rupture sites (pending.later moved) (owns_later owns moved)
        (fun covered => free (moved.undisturbed.fields rupture owns covered)) accepted

theorem allows_keep_of_committable (sound : database.Sound)
    (committable : database.Committable client) :
    discipline.Allows client database (database.keep client) := by
  cases committable with
  | field row event sites? pending there id holds lists accepted =>
      refine allows_keep sound pending ⟨⟨event, there, id, sites?, lists, accepted⟩, ?_, ?_⟩
      · intro rupture reassigns
        obtain ⟨written, impossible⟩ := reassigns
        cases impossible
      · intro rupture covers
        obtain ⟨stored, same, owner, ownerThere, ownerId, ownerRupture⟩ := covers
        cases same
        have unique := sound.tables.event_unique ownerThere there (ownerId.trans id.symm)
        rw [← ownerRupture, unique]
        exact holds
  | sites rupture sites pending owns free accepted =>
      refine allows_keep sound pending ⟨⟨free, accepted⟩, ?_, ?_⟩
      · intro assigned reassigns
        obtain ⟨written, same⟩ := reassigns
        cases same
        exact owns
      · intro assigned covers
        obtain ⟨stored, impossible, _⟩ := covers
        cases impossible

def Readied {α : Type} (client : Nat) (database : Database) : Except StoreError α → Prop
  | .ok _ => database.Committable client
  | .error _ => True

theorem readied_of_committable {α : Type} (ready : database.Committable client)
    (outcome : Except StoreError α) : Readied client database outcome := by
  cases outcome with
  | ok value => exact ready
  | error error => trivial

def Worked {α : Type} (client : Nat) (database : Database) :
    Except StoreError (Ending α) → Prop
  | .ok (.keep _) => database.Committable client
  | .ok (.discard _) => True
  | .error _ => True

theorem rollback_secure {α : Type} {session : Session StoreError α}
    (ends : ∀ state, session.Secure shared discipline client (fun _ _ => True) state) :
    (Session.rollback session).Secure shared discipline client (fun _ _ => True) database := by
  intro later moved after rolledBack
  have same : after = later.setTransaction client none := rolledBack
  rw [same]
  exact ⟨allows_rollback moved.sound, ends _⟩

theorem bracket_secure {α : Type} (work : Dialogue StoreError (Ending α)) (client : Nat)
    (state : Database)
    (worked : ∀ database : Database, database.Sound →
      state.committed.Kept database.committed → database.Pending client [] →
        (Session.ofDialogue work).Secure shared discipline client (Worked client) database) :
    (Session.bracket work).Secure shared discipline client (fun _ _ => True) state := by
  intro later moved outcome after began
  cases began with
  | refused error => exact ⟨.refl moved.sound, fun _ _ => trivial⟩
  | opened =>
      have allowed : discipline.Allows client later _ := allows_begin moved.sound
      refine ⟨allowed, ?_⟩
      have pending : (later.setTransaction client (some .opened)).Pending client [] :=
        ⟨_, setTransaction_self _ _ _, rfl⟩
      apply Session.Secure.conclude allowed.sound (worked _ allowed.sound moved.kept pending)
      intro outcome last lastSound stopped
      cases outcome with
      | error error => exact rollback_secure (fun _ _ _ => trivial)
      | ok ending =>
          cases ending with
          | discard value => exact rollback_secure (fun _ _ _ => trivial)
          | keep value =>
              intro further onward outcome final committed
              have ready : further.Committable client := Committable.later stopped onward
              cases committed with
              | accepted =>
                  exact ⟨allows_keep_of_committable onward.sound ready, fun _ _ => trivial⟩
              | refused error =>
                  exact ⟨allows_rollback onward.sound, rollback_secure (fun _ _ _ => trivial)⟩
              -- the changes are committed, and the client asks for a rollback all the same
              | unheard error =>
                  exact ⟨allows_keep_of_committable onward.sound ready,
                    rollback_secure (fun _ _ _ => trivial)⟩

/-- What sharing the rupture of an event rupture tells: the sites it has, for as long as the lock is
held. -/
def SharedSites (client : Nat) (event : RecordId) (database : Database) :
    Except StoreError (Option (Option (List SiteId))) → Prop
  | .ok (some sites?) => database.Pending client [] ∧
      ∃ owner ∈ database.committed.events, owner.id = event ∧
        database.Holds client owner.rupture ∧ database.committed.Lists owner.rupture sites?
  | .ok none => False
  | .error _ => True

theorem shareSites_secure (client : Nat) (event : RecordId) (state : Database)
    (pending : state.Pending client [])
    (known : ∃ owner ∈ state.committed.events, owner.id = event) :
    (Session.ofDialogue (Dialogue.first? (.shareSites event) Fields.decodeSites)).Secure shared
      discipline client (SharedSites client event) state := by
  apply Session.Secure.first?
  intro later moved outcome after answered
  cases answered with
  | refused _ _ error => exact ⟨.refl moved.sound, fun _ _ => trivial⟩
  | shareSites _ _ free =>
      refine ⟨allows_share moved.sound free, ?_⟩
      intro further onward
      have nowPending := pending.later moved
      have taken : (later.share client ((later.joined client event).map RuptureRow.id)).Pending
          client [] ∧ _ := nowPending.share
      obtain ⟨sharedPending, locked⟩ := taken
      have read : @Dialogue.firstOf? _ (.shareSites event) Fields.decodeSites _ = _ :=
        Dialogue.firstOf?_rows RuptureRow.integers?_sitesCell (later.joined client event)
      rw [read]
      cases rows : later.joined client event with
      | nil =>
          -- the event rupture is there, and its rupture with it
          obtain ⟨owner, there, id⟩ := known
          have nowThere := moved.kept.events owner there
          obtain ⟨sites?, row, rowThere, rowId, _⟩ := moved.sound.tables.placed owner nowThere
          have member : row ∈ later.joined client event := by
            rw [mem_joined, nowPending.view]
            refine ⟨owner, nowThere, id, ?_⟩
            rw [mem_named, nowPending.view]
            exact ⟨rowThere, rowId⟩
          rw [rows] at member
          cases member
      | cons row rest =>
          have member : row ∈ later.joined client event := by
            rw [rows]
            exact List.mem_cons_self ..
          obtain ⟨owner, there, id, named⟩ := mem_joined.1 member
          have lists := lists_of_mem_named named
          rw [nowPending.view] at there lists
          have holds := locked owner.rupture (List.mem_map.2 ⟨row, member, (mem_named.1 named).2⟩)
          exact ⟨sharedPending.later onward, owner, onward.kept.events owner there, id,
            holds_later holds onward, onward.undisturbed.sites _ _ holds lists⟩

theorem insertField_secure (client : Nat) (request : NewField) (state : Database)
    (pending : state.Pending client []) (owner : EventRow) (sites? : Option (List SiteId))
    (there : owner ∈ state.committed.events) (id : owner.id = request.event)
    (holds : state.Holds client owner.rupture) (lists : state.committed.Lists owner.rupture sites?)
    (accepted : GroundMotion.checkField sites? request.values = .ok ()) :
    (Session.ofDialogue (Dialogue.first (.insertField request) Fields.decodeRow)).Secure shared
      discipline client (Readied client) state := by
  apply Session.Secure.first
  intro later moved outcome after answered
  have nowPending := pending.later moved
  cases answered with
  | refused _ _ error => exact ⟨.refl moved.sound, fun _ _ => trivial⟩
  | insertField _ _ row _ _ =>
      refine ⟨allows_record moved.sound nowPending, ?_⟩
      intro further onward
      have recorded : (later.record client (.addField (request.row row))).Pending client
          ([] ++ [.addField (request.row row)]) ∧ _ := nowPending.record
      obtain ⟨nextPending, committed, _, stillHolds⟩ := recorded
      have ready : (later.record client (.addField (request.row row))).Committable client := by
        refine .field (request.row row) owner sites? nextPending ?_ id
          (stillHolds _ (holds_later holds moved)) ?_ accepted
        · rw [committed]
          exact moved.kept.events owner there
        · rw [committed]
          exact moved.undisturbed.sites _ _ holds lists
      exact readied_of_committable (ready.later onward) _

theorem store_secure (client : Nat) (request : NewField) (state : Database) (sound : state.Sound)
    (pending : state.Pending client [])
    (known : ∃ owner ∈ state.committed.events, owner.id = request.event) :
    (Session.ofDialogue (Fields.store request)).Secure shared discipline client (Worked client)
      state := by
  unfold Fields.store
  rw [Session.ofDialogue_bind]
  apply Session.Secure.bind sound (shareSites_secure client request.event state pending known)
  · intro sites?? later laterSound told
    cases sites?? with
    | none => exact told.elim
    | some sites? =>
        rw [Option.join_some]
        cases checked : GroundMotion.checkField sites? request.values with
        | error violation => exact fun _ _ => trivial
        | ok =>
            obtain ⟨nowPending, owner, there, id, holds, lists⟩ := told
            change (Session.ofDialogue (do
              let row ← Dialogue.first (.insertField request) Fields.decodeRow
              return .keep row)).Secure shared discipline client (Worked client) later
            rw [Session.ofDialogue_bind]
            apply Session.Secure.bind laterSound (insertField_secure client request later nowPending
              owner sites? there id holds lists checked)
            · intro row last _ ready further onward
              exact Committable.later ready onward
            · intro error last _ _
              trivial
  · intro error later _ _
    trivial

/-! ### Writing site indices -/

/-- What locking a rupture for an update tells: it is held, if it is there. -/
def LockedSites (client : Nat) (rupture : RecordId) (database : Database) :
    Except StoreError (Option (Option (List SiteId))) → Prop
  | .ok (some _) => database.Pending client [] ∧ database.Owns client rupture
  | .ok none => True
  | .error _ => True

theorem lockSites_secure (client : Nat) (rupture : RecordId) (state : Database)
    (pending : state.Pending client []) :
    (Session.ofDialogue (Dialogue.first? (.lockSites rupture) Ruptures.decodeSites)).Secure shared
      discipline client (LockedSites client rupture) state := by
  apply Session.Secure.first?
  intro later moved outcome after answered
  cases answered with
  | refused _ _ error => exact ⟨.refl moved.sound, fun _ _ => trivial⟩
  | lockSites _ _ free =>
      refine ⟨allows_own moved.sound free, ?_⟩
      intro further onward
      have taken : (later.own client ((later.named client rupture).map RuptureRow.id)).Pending
          client [] ∧ _ := (pending.later moved).own
      obtain ⟨ownPending, locked⟩ := taken
      have read : @Dialogue.firstOf? _ (.lockSites rupture) Ruptures.decodeSites _ = _ :=
        Dialogue.firstOf?_rows RuptureRow.integers?_sitesCell (later.named client rupture)
      rw [read]
      cases rows : later.named client rupture with
      | nil => trivial
      | cons row rest =>
          have member : row ∈ later.named client rupture := by
            rw [rows]
            exact List.mem_cons_self ..
          have owns := locked rupture
            (Or.inl (List.mem_map.2 ⟨row, member, (mem_named.1 member).2⟩))
          exact ⟨ownPending.later onward, owns_later owns onward⟩

def CountedFields (client : Nat) (rupture : RecordId) (database : Database) :
    Except StoreError Int64 → Prop
  | .ok total => database.Pending client [] ∧ database.Owns client rupture ∧
      (¬0 < total → ¬database.committed.Covered rupture)
  | .error _ => True

theorem countFields_secure (client : Nat) (rupture : RecordId) (state : Database)
    (pending : state.Pending client []) (owns : state.Owns client rupture) :
    (Session.ofDialogue (Dialogue.first (.countFields rupture) Ruptures.decodeCount)).Secure shared
      discipline client (CountedFields client rupture) state := by
  apply Session.Secure.first
  intro later moved outcome after answered
  have nowPending := pending.later moved
  cases answered with
  | refused _ _ error => exact ⟨.refl moved.sound, fun _ _ => trivial⟩
  | countFields _ _ total counted =>
      refine ⟨.refl moved.sound, ?_⟩
      intro further onward
      refine ⟨nowPending.later onward, owns_later (owns_later owns moved) onward, ?_⟩
      intro notPositive covered
      have before := onward.undisturbed.fields rupture (owns_later owns moved) covered
      refine Tables.not_covered_of_fieldsOf ?_ before
      rw [nowPending.view] at counted
      apply List.eq_nil_of_length_eq_zero
      have bound : ¬(0 : Int64).toInt < total.toInt :=
        fun less => notPositive (Int64.lt_iff_toInt_lt.2 less)
      rw [Int64.toInt_zero, counted] at bound
      omega

theorem updateSites_secure (client : Nat) (rupture : RecordId) (sites : List SiteId)
    (state : Database) (pending : state.Pending client [])
    (owns : state.Owns client rupture) (free : ¬state.committed.Covered rupture)
    (accepted : GroundMotion.checkSites sites = .ok ()) :
    (Session.ofDialogue (Dialogue.first (.updateSites rupture sites) Ruptures.decodeRow)).Secure
      shared discipline client (Readied client) state := by
  apply Session.Secure.first
  intro later moved outcome after answered
  have nowPending := pending.later moved
  cases answered with
  | refused _ _ error => exact ⟨.refl moved.sound, fun _ _ => trivial⟩
  | updateSites _ _ _ unheld =>
      have taken : (later.own client ((later.named client rupture).map RuptureRow.id)).Pending
          client [] ∧ _ := nowPending.own
      obtain ⟨ownPending, locked⟩ := taken
      have lockAllowed : discipline.Allows client later _ := allows_own moved.sound unheld
      refine ⟨lockAllowed.trans (allows_record lockAllowed.sound ownPending), ?_⟩
      intro further onward
      have recorded : (Database.record _ client (.assignSites rupture sites)).Pending client
          ([] ++ [.assignSites rupture sites]) ∧ _ := ownPending.record
      obtain ⟨nextPending, committed, stillOwns, _⟩ := recorded
      apply readied_of_committable
      refine Committable.later ?_ onward
      refine .sites rupture sites nextPending
        (stillOwns _ (locked rupture (Or.inr (owns_later owns moved)))) ?_ accepted
      rw [committed]
      exact fun covered => free (moved.undisturbed.fields rupture owns covered)

theorem assignSites_secure (client : Nat) (rupture : RecordId) (sites : List SiteId)
    (accepted : GroundMotion.checkSites sites = .ok ()) (state : Database) (sound : state.Sound)
    (pending : state.Pending client []) :
    (Session.ofDialogue (Ruptures.assignSites rupture sites)).Secure shared discipline client
      (Worked client) state := by
  unfold Ruptures.assignSites
  rw [Session.ofDialogue_bind]
  apply Session.Secure.bind sound (lockSites_secure client rupture state pending)
  · intro sites?? later laterSound told
    cases sites?? with
    | none => exact fun _ _ => trivial
    | some sites? =>
        cases sites? with
        | some written => exact fun _ _ => trivial
        | none =>
            -- from here on the lock is held, and nobody else stores a field of the rupture
            obtain ⟨nowPending, owns⟩ := told
            change (Session.ofDialogue (Ruptures.writeSites rupture sites)).Secure shared discipline
              client (Worked client) later
            unfold Ruptures.writeSites
            rw [Session.ofDialogue_bind]
            apply Session.Secure.bind laterSound
              (countFields_secure client rupture later nowPending owns)
            · intro total next nextSound counted
              obtain ⟨nextPending, nextOwns, free⟩ := counted
              by_cases positive : 0 < total
              · rw [if_pos positive]
                exact fun _ _ => trivial
              · rw [if_neg positive, Session.ofDialogue_bind]
                apply Session.Secure.bind nextSound (updateSites_secure client rupture sites next
                  nextPending nextOwns (free positive) accepted)
                · intro row last _ ready further onward
                  exact Committable.later ready onward
                · intro error last _ _
                  trivial
            · intro error next _ _
              trivial
  · intro error later _ _
    trivial

theorem createRupture_secure (client : Nat) (request : NewRupture) (state : Database)
    (idle : state.transactions client = none) :
    (Session.ofDialogue (Ruptures.create request)).Secure shared discipline client
      (fun _ _ => True) state := by
  unfold Ruptures.create
  cases checked : Ruptures.checkListed request.sites? with
  | error error => exact fun _ _ => trivial
  | ok =>
      have valid : ∀ sites, request.sites? = some sites →
          GroundMotion.checkSites sites = .ok () := by
        intro sites listed
        rw [listed] at checked
        cases outcome : GroundMotion.checkSites sites with
        | ok => rfl
        | error violation =>
            rw [Ruptures.checkListed, outcome] at checked
            cases checked
      change (Session.ofDialogue (Dialogue.first (.insertRupture request) Ruptures.decodeRow)).Secure
        shared discipline client (fun _ _ => True) state
      apply Session.Secure.first
      intro later moved outcome after answered
      refine ⟨?_, fun _ _ => trivial⟩
      cases answered with
      | refused _ _ error => exact .refl moved.sound
      | insertRupture _ _ id createdAt fresh =>
          have laterIdle := moved.undisturbed.transaction.trans idle
          have view : later.view client = later.committed := by
            simp only [Database.view, laterIdle]
          have admissible : (Change.addRupture (request.row id createdAt)).Admissible
              later.committed := by
            refine ⟨?_, valid⟩
            rw [← view]
            exact fresh client
          exact (allows_record_idle moved.sound laterIdle
            (.of_insertion (Or.inl ⟨_, rfl⟩) admissible)).1

def Created (database : Database) : Except StoreError EventRow → Prop
  | .ok row => ∃ event ∈ database.committed.events, event.id = row.id
  | .error _ => True

theorem createEvent_secure (client : Nat) (request : NewEvent) (state : Database)
    (idle : state.transactions client = none) :
    (Session.ofDialogue (Events.create request)).Secure shared discipline client Created state := by
  apply Session.Secure.first
  intro later moved outcome after answered
  cases answered with
  | refused _ _ error => exact ⟨.refl moved.sound, fun _ _ => trivial⟩
  | insertEvent _ _ id createdAt fresh placed =>
      have laterIdle := moved.undisturbed.transaction.trans idle
      have view : later.view client = later.committed := by
        simp only [Database.view, laterIdle]
      have admissible : (Change.addEvent (request.row id createdAt)).Admissible
          later.committed := by
        obtain ⟨row, member⟩ := List.exists_mem_of_ne_nil _ placed
        have lists := lists_of_mem_named member
        rw [view] at lists
        refine ⟨?_, row.sites?, lists⟩
        rw [← view]
        exact fresh client
      obtain ⟨allowed, committed⟩ := allows_record_idle moved.sound laterIdle
        (.of_insertion (Or.inr ⟨_, rfl⟩) admissible)
      refine ⟨allowed, ?_⟩
      intro further onward
      refine ⟨request.row id createdAt, onward.kept.events _ ?_, rfl⟩
      rw [committed]
      exact List.mem_append_right _ (List.mem_singleton_self _)

/-! ### Any order of statements -/

inductive Request where
  | rupture (request : NewRupture)
  | event (request : NewEvent)
  | sites (rupture : RecordId) (sites : List SiteId)
  | field (request : NewField)

inductive Given where
  | rupture (row : RuptureRow)
  | event (row : EventRow)
  | sites (row? : Option RuptureRow)
  | field (row : FieldRow)
deriving DecidableEq

def Request.session : Request → Session StoreError Given
  | .rupture request => do
      let row ← Session.ofDialogue (Ruptures.create request)
      return .rupture row
  | .event request => do
      let row ← Session.ofDialogue (Events.create request)
      return .event row
  | .sites owner indices => do
      let row? ← Ruptures.setSites owner indices
      return .sites row?
  | .field request => do
      let row ← Fields.create request
      return .field row

/-- A field is stored only for an event rupture that was created before. -/
def Request.Admitted (calls : List (Call Request StoreError Given)) : Request → Prop
  | .field request => ∃ call ∈ calls, ∃ row, call.session = .done (.event row) ∧
      row.id = request.event
  | _ => True

def service : Service Database Request StoreError Given where
  store := shared
  session := Request.session
  Admits := Request.Admitted

def Answered (_ : Request) (database : Database) : Except StoreError Given → Prop
  | .ok (.event row) => ∃ event ∈ database.committed.events, event.id = row.id
  | _ => True

theorem setSites_secure (client : Nat) (rupture : RecordId) (sites : List SiteId)
    (state : Database) :
    (Ruptures.setSites rupture sites).Secure shared discipline client (fun _ _ => True) state := by
  unfold Ruptures.setSites
  cases accepted : GroundMotion.checkSites sites with
  | error violation => exact fun _ _ => trivial
  | ok =>
      exact bracket_secure _ client state (fun database sound _ pending =>
        assignSites_secure client rupture sites accepted database sound pending)

theorem createField_secure (client : Nat) (request : NewField) (state : Database)
    (known : ∃ event ∈ state.committed.events, event.id = request.event) :
    (Fields.create request).Secure shared discipline client (fun _ _ => True) state := by
  apply bracket_secure
  intro database sound kept pending
  obtain ⟨event, there, id⟩ := known
  exact store_secure client request database sound pending ⟨event, kept.events event there, id⟩

theorem requests_start (first : Database) :
    Traffic.Starts service discipline (fun _ => Answered) first := by
  intro traffic request client holds _ admitted idle
  cases request with
  | rupture request =>
      refine Session.Secure.bind holds.sound
        (createRupture_secure client request traffic.store idle) ?_ ?_
      · exact fun row later _ _ further onward => trivial
      · exact fun error later _ _ => trivial
  | event request =>
      refine Session.Secure.bind holds.sound
        (createEvent_secure client request traffic.store idle) ?_ ?_
      · intro row later _ created further onward
        obtain ⟨event, there, id⟩ := created
        exact ⟨event, onward.kept.events event there, id⟩
      · exact fun error later _ _ => trivial
  | sites rupture indices =>
      refine Session.Secure.bind holds.sound
        (setSites_secure client rupture indices traffic.store) ?_ ?_
      · exact fun row? later _ _ further onward => trivial
      · exact fun error later _ _ => trivial
  | field request =>
      obtain ⟨call, member, row, done, id⟩ := admitted
      obtain ⟨creator, place⟩ := List.mem_iff_getElem?.1 member
      obtain ⟨event, there, same⟩ := (holds.ended place).1 _ done
      refine Session.Secure.bind holds.sound
        (createField_secure client request traffic.store ⟨event, there, same.trans id⟩) ?_ ?_
      · exact fun row later _ _ further onward => trivial
      · exact fun error later _ _ => trivial

theorem empty_sound : empty.Sound where
  tables := Tables.empty_sound
  exclusive := by
    intro client other rupture _ owns
    obtain ⟨transaction, impossible, _⟩ := owns
    cases impossible

theorem requests_hold (traffic : Traffic Database Request StoreError Given)
    (reached : Traffic.Reaches service ⟨empty, []⟩ traffic) :
    Traffic.Holds service discipline (fun _ => Answered) traffic :=
  ((Traffic.Holds.empty empty empty_sound (fun _ => rfl)).reaches (requests_start empty) reached).1

/-- Whatever requests are made from the empty tables on, and in whatever order their statements are
answered: sites that are stored are non-negative and distinct, every field that is stored fits the
sites of its rupture, and from its first field on the sites of a rupture stay as they are. -/
theorem fields_fit_sites (traffic : Traffic Database Request StoreError Given)
    (reached : Traffic.Reaches service ⟨empty, []⟩ traffic) :
    (∀ row ∈ traffic.store.committed.ruptures, ∀ sites, row.sites? = some sites →
      (∀ site ∈ sites, 0 ≤ site) ∧ sites.Nodup) ∧
    (∀ field ∈ traffic.store.committed.fields,
      (∃ row, traffic.store.committed.RuptureOf field row) ∧
        ∀ row, traffic.store.committed.RuptureOf field row →
          GroundMotion.checkField row.sites? field.values = .ok ()) ∧
    (∀ field ∈ traffic.store.committed.fields, ∀ row,
      traffic.store.committed.RuptureOf field row →
        ∀ later, Traffic.Reaches service traffic later →
          (∃ after ∈ later.store.committed.ruptures, after.id = row.id) ∧
            ∀ after ∈ later.store.committed.ruptures, after.id = row.id →
              after.sites? = row.sites?) := by
  have holds := requests_hold traffic reached
  have sound : traffic.store.committed.Sound := holds.sound.tables
  refine ⟨?_, fun field there => sound.ruptureOf there, ?_⟩
  · intro row there sites listed
    exact (GroundMotion.checkSites_ok_iff sites).1 (sound.valid row there sites listed)
  · intro field there row owner later onward
    obtain ⟨rowThere, event, eventThere, id, same⟩ := owner
    obtain ⟨laterHolds, kept⟩ := holds.reaches (requests_start _) onward
    have covered : traffic.store.committed.Covered row.id :=
      ⟨field, there, event, eventThere, id, same⟩
    have fixed := kept.fixed row.id row.sites? covered ⟨row, rowThere, rfl, rfl⟩
    constructor
    · obtain ⟨after, afterThere, afterId, _⟩ := fixed
      exact ⟨after, afterThere, afterId⟩
    · intro after afterThere afterId
      exact laterHolds.sound.tables.lists_unique ⟨after, afterThere, afterId, rfl⟩ fixed

def racedRupture : NewRupture where
  magnitude := .zero
  rake := .zero
  tectonicRegion := "Stable Continental Crust"
  fromFaultSource? := none
  sites? := none

def racedEvent : NewEvent where
  rupture := 1
  eventSet := 1
  tag := "first"
  seed := 42

def racedField : NewField where
  event := 1
  container := 1
  measure := 1
  values := [.zero, .zero]

theorem race_reached : ∃ traffic, Traffic.Reaches service ⟨empty, []⟩ traffic ∧
    traffic.store.committed.fields = [racedField.row 1] ∧
    traffic.store.committed.ruptures = [(racedRupture.row 1 ⟨0⟩).assign 1 [3, 5]] := by
  have now : Traffic.Reaches service ⟨empty, []⟩ ⟨empty, []⟩ := .refl
  have now := now.start (.rupture racedRupture) trivial
  have now := now.move 0 rfl (.ask (Answers.insertRupture 0 racedRupture empty 1 ⟨0⟩ (by
    intro other row there
    cases there)))
  have now := now.start (.event racedEvent) trivial
  have now := now.move 1 rfl (.ask (Answers.insertEvent 1 racedEvent _ 1 ⟨0⟩ (by
    intro other row there
    cases there) (by decide)))
  have now := now.start (.sites 1 [3, 5]) trivial
  have now := now.start (.field racedField)
    ⟨_, List.mem_cons_of_mem _ (List.mem_cons_self ..), _, rfl, rfl⟩
  have now := now.move 2 rfl (.begin (Begins.opened 2 _))
  have now := now.move 3 rfl (.begin (Begins.opened 3 _))
  have now := now.move 2 rfl (.ask (Answers.lockSites 2 1 _ (by
    intro rupture _ other apart holds
    obtain ⟨transaction, found, member⟩ := holds
    by_cases third : other = 3
    · subst third
      cases found
      rcases member with held | held <;> cases held
    · simp [setTransaction, record, empty, third, apart] at found)))
  have now := now.move 2 rfl (.ask (Answers.countFields 2 1 _ 0 rfl))
  have now := now.move 2 rfl (.ask (Answers.updateSites 2 1 [3, 5] _ (by
    intro rupture _ other apart holds
    obtain ⟨transaction, found, member⟩ := holds
    by_cases third : other = 3
    · subst third
      cases found
      rcases member with held | held <;> cases held
    · simp [setTransaction, own, record, empty, third, apart] at found)))
  have now := now.move 2 rfl (.commit (Commits.accepted 2 _))
  have now := now.move 3 rfl (.ask (Answers.shareSites 3 1 _ (by
    intro rupture _ other apart owns
    obtain ⟨transaction, found, member⟩ := owns
    by_cases second : other = 2
    · subst second
      cases found
    · simp [setTransaction, own, record, keep, empty, second, apart] at found)))
  have now := now.move 3 rfl (.ask (Answers.insertField 3 racedField _ 1 (by
    intro other row there
    unfold Database.view at there
    split at there
    · cases there
    · rename_i transaction found
      by_cases second : other = 2
      · subst second
        cases found
      · by_cases third : other = 3
        · subst third
          cases found
          cases there
        · simp [setTransaction, own, share, record, keep, empty, second, third] at found) (by
    refine ⟨racedEvent.row 1 ⟨0⟩, ?_, rfl⟩
    exact List.mem_singleton_self _)))
  have now := now.move 3 rfl (.commit (Commits.accepted 3 _))
  exact ⟨_, now, rfl, rfl⟩

/-- The field that was stored in the race fits the sites that were written in it. -/
theorem fields_fit_sites_race : ∃ traffic, Traffic.Reaches service ⟨empty, []⟩ traffic ∧
    (∃ field ∈ traffic.store.committed.fields, ∃ row,
      traffic.store.committed.RuptureOf field row ∧ row.sites? = some [3, 5] ∧
        GroundMotion.checkField row.sites? field.values = .ok ()) := by
  obtain ⟨traffic, reached, fields, ruptures⟩ := race_reached
  refine ⟨traffic, reached, racedField.row 1, by rw [fields]; exact List.mem_singleton_self _, ?_⟩
  obtain ⟨⟨row, owner⟩, fits⟩ := (fields_fit_sites traffic reached).2.1 (racedField.row 1)
    (by rw [fields]; exact List.mem_singleton_self _)
  refine ⟨row, owner, ?_, fits row owner⟩
  have there := owner.1
  rw [ruptures, List.mem_singleton] at there
  rw [there]
  rfl

end Database

end HazardStore
