import HazardStore.Proofs.GroundMotion.Alignment
import HazardStore.Proofs.Rupture.Growth
import HazardStore.Proofs.Session.Answers
/-!
Values of sites read while fields are stored. The values of several sites are collected by one query
for each site, and fields that are committed between two queries are seen by the later one alone. So
every site is read from the fields committed up to some point, later sites up to later points; the
whole need not be what was stored at any one time.
-/

namespace HazardStore

namespace GroundMotion

theorem mem_of_mem_align {perSite : List (SiteId × SiteValues)} {row : SiteId × List Double}
    (member : row ∈ (align perSite).rows) : ∃ values, (row.1, values) ∈ perSite ∧
      ∀ entry ∈ (align perSite).ruptures.zip row.2, entry.2 = .zero ∨ entry ∈ values := by
  obtain ⟨⟨site, values⟩, there, same⟩ := List.mem_map.1 member
  subst same
  refine ⟨values, there, ?_⟩
  intro entry zipped
  change entry ∈ (align perSite).ruptures.zip ((align perSite).ruptures.map (fun rupture =>
    (lastValue? values rupture).getD .zero)) at zipped
  rw [← List.map_prod_left_eq_zip] at zipped
  obtain ⟨rupture, _, same⟩ := List.mem_map.1 zipped
  subst same
  cases last : lastValue? values rupture with
  | none => exact Or.inl rfl
  | some value => exact Or.inr (mem_of_lastValue? last)

end GroundMotion

namespace Tables

variable {container measure : RecordId} {first last further : Tables}

/-- The values of a site as they were at some time between two states of the tables. -/
structure ReadAt (container measure : RecordId) (site : SiteId) (first last : Tables)
    (values : GroundMotion.SiteValues) : Prop where
  grows : first.Grows last
  count : ∃ count, first.fields.length ≤ count ∧ count ≤ last.fields.length ∧
    values = (last.upTo count).valuesAtSite container measure site

/-- The values of sites, each as they were at some time, one after the other. -/
structure ReadInTurn (container measure : RecordId) (sites : List SiteId) (first last : Tables)
    (perSite : List (SiteId × GroundMotion.SiteValues)) : Prop where
  grows : first.Grows last
  counts : ∃ counts : List Nat, counts.length = sites.length ∧ counts.Pairwise (· ≤ ·) ∧
    (∀ count ∈ counts, first.fields.length ≤ count ∧ count ≤ last.fields.length) ∧
    perSite = (sites.zip counts).map (fun read =>
      (read.1, (last.upTo read.2).valuesAtSite container measure read.1))

theorem ReadAt.now (site : SiteId) (grows : first.Grows last) :
    ReadAt container measure site first last (last.valuesAtSite container measure site) := by
  refine ⟨grows, last.fields.length, grows.length_le, Nat.le_refl _, ?_⟩
  rw [upTo_length]

theorem ReadAt.later {site : SiteId} {values : GroundMotion.SiteValues}
    (read : ReadAt container measure site first last values) (grows : last.Grows further) :
    ReadAt container measure site first further values := by
  obtain ⟨count, least, most, same⟩ := read.count
  refine ⟨read.grows.trans grows, count, least, most.trans grows.length_le, ?_⟩
  rw [grows.upTo most]
  exact same

theorem ReadInTurn.later {sites : List SiteId} {perSite : List (SiteId × GroundMotion.SiteValues)}
    (read : ReadInTurn container measure sites first last perSite) (grows : last.Grows further) :
    ReadInTurn container measure sites first further perSite := by
  obtain ⟨counts, length, ascending, bounds, same⟩ := read.counts
  refine ⟨read.grows.trans grows, counts, length, ascending, ?_, ?_⟩
  · intro count member
    obtain ⟨least, most⟩ := bounds count member
    exact ⟨least, most.trans grows.length_le⟩
  · rw [same]
    apply List.map_congr_left
    intro entry member
    rw [grows.upTo (bounds entry.2 (List.of_mem_zip member).2).2]

theorem ReadInTurn.earlier {sites : List SiteId}
    {perSite : List (SiteId × GroundMotion.SiteValues)} (grows : first.Grows last)
    (read : ReadInTurn container measure sites last further perSite) :
    ReadInTurn container measure sites first further perSite := by
  obtain ⟨counts, length, ascending, bounds, same⟩ := read.counts
  refine ⟨grows.trans read.grows, counts, length, ascending, ?_, same⟩
  intro count member
  obtain ⟨least, most⟩ := bounds count member
  exact ⟨grows.length_le.trans least, most⟩

theorem ReadInTurn.nil (grows : first.Grows last) :
    ReadInTurn container measure [] first last [] :=
  ⟨grows, [], rfl, List.Pairwise.nil, fun _ member => absurd member List.not_mem_nil, rfl⟩

theorem ReadInTurn.cons {site : SiteId} {sites : List SiteId} {values : GroundMotion.SiteValues}
    {perSite : List (SiteId × GroundMotion.SiteValues)}
    (here : ReadAt container measure site first last values)
    (others : ReadInTurn container measure sites last further perSite) :
    ReadInTurn container measure (site :: sites) first further ((site, values) :: perSite) := by
  obtain ⟨count, least, most, same⟩ := here.count
  obtain ⟨counts, length, ascending, bounds, others_same⟩ := others.counts
  refine ⟨here.grows.trans others.grows, count :: counts, congrArg (· + 1) length,
    List.pairwise_cons.2 ⟨?_, ascending⟩, ?_, ?_⟩
  · exact fun next member => most.trans (bounds next member).1
  · intro next member
    rcases List.mem_cons.1 member with now | later
    · rw [now]
      exact ⟨least, most.trans others.grows.length_le⟩
    · obtain ⟨lower, upper⟩ := bounds next later
      exact ⟨here.grows.length_le.trans lower, upper⟩
  · rw [List.zip_cons_cons, List.map_cons, ← others_same, others.grows.upTo most, ← same]

end Tables

namespace Database

variable {first : Tables} {client : Nat}

theorem decodeAll_cells (fields : List Fields.FieldAtSite) :
    Dialogue.decodeAll Fields.decodeFieldAtSite (fields.map Fields.FieldAtSite.cells) =
      .ok fields := by
  rw [Dialogue.decodeAll_map Fields.FieldAtSite.decode_cells, List.map_id]

/-- What a reading comes to, as `read` says of the tables it began and ended with. Its client opens
no transaction. -/
def Read {ε α : Type} (read : Tables → Tables → α → Prop) (client : Nat) (began database : Database)
    (outcome : Except ε α) : Prop :=
  ∀ value, outcome = .ok value →
    database.transactions client = none ∧ read began.committed database.committed value

section Reading

variable {ε : Type} [OfFault ε] {container measure : RecordId}

theorem valuesAtSite_secure (site : SiteId) (state : Database)
    (idle : state.transactions client = none) :
    (Session.ofDialogue (Fields.valuesAtSite container measure site : Dialogue ε _)).Secure readable
      (growing first) client (Read (Tables.ReadAt container measure site) client state) state := by
  intro later moved reply after answered
  cases answered with
  | written answered =>
      cases answered with
      | refused =>
          refine ⟨.refl moved.sound, ?_⟩
          intro further onward value impossible
          cases impossible
  | fieldsAtSite =>
      refine ⟨.refl moved.sound, ?_⟩
      have still : later.transactions client = none := moved.undisturbed.trans idle
      have view : later.view client = later.committed := by
        simp only [Database.view, still]
      have done : (Session.done (later.committed.valuesAtSite container measure site) :
          Session ε _).Secure readable (growing first) client
            (Read (Tables.ReadAt container measure site) client state) later := by
        intro further onward value same
        cases same
        exact ⟨onward.undisturbed.trans still,
          (Tables.ReadAt.now site moved.kept).later onward.kept⟩
      change (Session.ofDialogue ((Dialogue.decoded (Dialogue.decodeAll Fields.decodeFieldAtSite
        (((later.view client).fieldsAtSite container measure site).map
          Fields.FieldAtSite.cells))).bind _)).Secure readable (growing first) client _ later
      rw [view, decodeAll_cells]
      change (Session.ofDialogue (if (later.committed.valuesAtSite container measure site).isEmpty
        then .note (.noValuesAtSite container measure site) (.done _) else .done _)).Secure readable
          (growing first) client _ later
      split
      · exact done
      · exact done

theorem collect_secure (sites : List SiteId) (state : Database)
    (sound : OnlyFields first state) (idle : state.transactions client = none) :
    (Session.ofDialogue (Fields.collect container measure sites : Dialogue ε _)).Secure readable
      (growing first) client (Read (Tables.ReadInTurn container measure sites) client state)
        state := by
  induction sites generalizing state with
  | nil =>
      intro later moved value same
      cases same
      exact ⟨moved.undisturbed.trans idle, .nil moved.kept⟩
  | cons site others ih =>
      rw [Fields.collect, Session.ofDialogue_bind]
      refine Session.Secure.bind sound (valuesAtSite_secure site state idle) ?_ ?_
      · intro values later laterSound read
        obtain ⟨still, here⟩ := read values rfl
        rw [Session.ofDialogue_bind]
        refine Session.Secure.bind laterSound (ih later laterSound still) ?_ ?_
        · intro perSite next _ collected further onward value same
          obtain ⟨idle, others⟩ := collected perSite rfl
          cases same
          exact ⟨onward.undisturbed.trans idle, .cons here (others.later onward.kept)⟩
        · intro error next _ _ value impossible
          cases impossible
      · intro error later _ _ value impossible
        cases impossible

theorem valuesAtSites_secure (sites : List SiteId) (state : Database)
    (sound : OnlyFields first state) (idle : state.transactions client = none) :
    (Session.ofDialogue (Fields.valuesAtSites container measure sites : Dialogue ε _)).Secure
      readable (growing first) client (Read (fun began ended aligned => ∃ perSite,
        Tables.ReadInTurn container measure sites began ended perSite ∧
          aligned = GroundMotion.align perSite) client state) state := by
  rw [Fields.valuesAtSites, Session.ofDialogue_bind]
  refine Session.Secure.bind sound (collect_secure sites state sound idle) ?_ ?_
  · intro perSite later _ collected further onward aligned same
    obtain ⟨still, read⟩ := collected perSite rfl
    cases same
    exact ⟨onward.undisturbed.trans still, perSite, read.later onward.kept, rfl⟩
  · intro error later _ _ value impossible
    cases impossible

end Reading

end Database

/-! ### Fields stored and sites read at the same time -/

namespace SiteValues

inductive Request where
  | store (request : NewField)
  | read (container measure : RecordId) (sites : List SiteId)

inductive Given where
  | stored (row : FieldRow)
  | read (aligned : GroundMotion.AlignedField)
deriving DecidableEq

def Request.session : Request → Session StoreError Given
  | .store request => do
      let row ← Fields.create request
      return .stored row
  | .read container measure sites => do
      let aligned ← Session.ofDialogue (Fields.valuesAtSites container measure sites)
      return .read aligned

def service : Service Database Request StoreError Given where
  store := Database.readable
  session := Request.session
  Admits _ _ := True

def quiet (tables : Tables) : Database :=
  ⟨tables, fun _ => none⟩

def Answered (first : Tables) : Request → Database → Except StoreError Given → Prop
  | .read container measure sites, database, .ok (.read aligned) => ∃ perSite,
      Tables.ReadInTurn container measure sites first database.committed perSite ∧
        aligned = GroundMotion.align perSite
  | _, _, _ => True

/-- What is told of the calls that start when there are so many. -/
def Told (first : Tables) (started client : Nat) (request : Request) (database : Database)
    (outcome : Except StoreError Given) : Prop :=
  started ≤ client → Answered first request database outcome

theorem requests_start (tables : Tables) (first : Database) (started : Nat) :
    Traffic.Starts service (Database.growing tables) (Told first.committed started) first := by
  intro traffic request client holds grows _ idle
  cases request with
  | store request =>
      refine Session.Secure.bind holds.sound
        (Database.secure_of_storesField (Database.create_storesField request) traffic.store) ?_ ?_
      · exact fun row later _ _ further onward _ => trivial
      · exact fun error later _ _ _ => trivial
  | read container measure sites =>
      refine Session.Secure.bind holds.sound
        (Database.valuesAtSites_secure sites traffic.store holds.sound idle) ?_ ?_
      · intro aligned later _ answered further onward _
        obtain ⟨_, perSite, read, same⟩ := answered aligned rfl
        exact ⟨perSite, .earlier grows (read.later onward.kept), same⟩
      · exact fun error later _ _ _ => trivial

theorem requests_hold (tables : Tables) (traffic : Traffic Database Request StoreError Given)
    (reached : Traffic.Reaches service ⟨quiet tables, []⟩ traffic) :
    Traffic.Holds service (Database.growing tables) (Told tables 0) traffic := by
  have sound : (Database.growing tables).Sound (quiet tables) :=
    ⟨.refl tables, fun client transaction found => nomatch found⟩
  exact ((Traffic.Holds.empty (quiet tables) sound (fun _ => rfl)).reaches
    (requests_start tables (quiet tables) 0) reached).1

/-- The calls that start after some point read what was committed from then on. -/
theorem requests_hold_after (tables : Tables)
    (began ended : Traffic Database Request StoreError Given)
    (reached : Traffic.Reaches service ⟨quiet tables, []⟩ began)
    (went : Traffic.Reaches service began ended) :
    Traffic.Holds service (Database.growing tables)
        (Told began.store.committed began.calls.length) ended ∧
      began.store.committed.Grows ended.store.committed := by
  have holds : Traffic.Holds service (Database.growing tables)
      (Told began.store.committed began.calls.length) began :=
    (requests_hold tables began reached).restart
      (fun client before _ _ _ _ started => absurd before (Nat.not_lt.2 started))
  exact holds.reaches (requests_start tables began.store began.calls.length) went

/-- Whatever is stored, and however the queries of a reading and the fields that others store follow
one another from before the reading starts until after it has ended: every site is read from the
fields that were committed up to some point between, later sites up to later points. So every number
that is given is the filler or was stored for its site. Where no field of the same container and
measure was stored meanwhile, all sites are read from the same tables. -/
theorem sites_read_in_turn (tables : Tables)
    (began ended : Traffic Database Request StoreError Given)
    (reached : Traffic.Reaches service ⟨quiet tables, []⟩ began)
    (went : Traffic.Reaches service began ended)
    (client : Nat) (unstarted : began.calls.length ≤ client)
    (container measure : RecordId) (sites : List SiteId) (aligned : GroundMotion.AlignedField)
    (answered : ended.calls[client]? =
      some ⟨.read container measure sites, .done (.read aligned)⟩) :
    let before := began.store.committed
    let committed := ended.store.committed
    (∃ counts : List Nat, counts.length = sites.length ∧ counts.Pairwise (· ≤ ·) ∧
      (∀ count ∈ counts, before.fields.length ≤ count ∧ count ≤ committed.fields.length) ∧
      aligned = GroundMotion.align ((sites.zip counts).map (fun read =>
        (read.1, (committed.upTo read.2).valuesAtSite container measure read.1)))) ∧
    (∀ row ∈ aligned.rows, ∀ entry ∈ aligned.ruptures.zip row.2,
      entry.2 = .zero ∨ entry ∈ committed.valuesAtSite container measure row.1) ∧
    ((∀ field ∈ committed.fields.drop before.fields.length,
      ¬(field.container = container ∧ field.measure = measure)) →
        aligned = committed.alignedAt container measure sites) := by
  obtain ⟨holds, _⟩ := requests_hold_after tables began ended reached went
  obtain ⟨perSite, read, same⟩ := (holds.ended answered).1 _ rfl unstarted
  obtain ⟨counts, length, ascending, bounds, collected⟩ := read.counts
  rw [collected] at same
  refine ⟨⟨counts, length, ascending, bounds, same⟩, ?_, ?_⟩
  · intro row rowMember entry zipped
    rw [same] at rowMember zipped
    obtain ⟨values, there, found⟩ := GroundMotion.mem_of_mem_align rowMember
    obtain ⟨read, _, written⟩ := List.mem_map.1 there
    obtain ⟨site, numbers⟩ := row
    cases written
    rcases found entry zipped with filler | stored
    · exact Or.inl filler
    · exact Or.inr (Tables.valuesAtSite_upTo_subset _ container measure _ _ stored)
  · intro others
    -- none of the later fields is read, so each count may as well be the last one
    rw [same, Tables.alignedAt]
    apply congrArg
    calc
      _ = (sites.zip counts).map (fun read =>
            (read.1, ended.store.committed.valuesAtSite container measure read.1)) := by
        apply List.map_congr_left
        intro read member
        have least := (bounds read.2 (List.of_mem_zip member).2).1
        rw [Tables.valuesAtSite_upTo read.1
          (fun field there => others field (List.drop_subset_drop_left _ least there))]
      _ = ((sites.zip counts).map Prod.fst).map (fun site =>
            (site, ended.store.committed.valuesAtSite container measure site)) := by
        rw [List.map_map]
        rfl
      _ = _ := by rw [List.map_fst_zip (Nat.le_of_eq length.symm)]

def tornTables : Tables where
  ruptures := [⟨1, .zero, .zero, "Stable Continental Crust", false, none, ⟨0⟩⟩]
  events := [⟨1, 1, 1, "first", 42, ⟨0⟩⟩]
  fields := []

def strong : Double :=
  .finite false ⟨4607182418800017408, by decide⟩

def tornField : NewField where
  event := 1
  container := 1
  measure := 1
  values := [strong, strong]

def tornAligned : GroundMotion.AlignedField :=
  ⟨[1], [(0, [.zero]), (1, [strong])]⟩

theorem torn_reached : ∃ traffic, Traffic.Reaches service ⟨quiet tornTables, []⟩ traffic ∧
    traffic.store.committed = (Change.addField (tornField.row 1)).apply tornTables ∧
    traffic.calls[0]? = some ⟨.read 1 1 [0, 1], .done (.read tornAligned)⟩ := by
  have now : Traffic.Reaches service ⟨quiet tornTables, []⟩ ⟨quiet tornTables, []⟩ := .refl
  have now := now.start (.read 1 1 [0, 1]) trivial
  have now := now.move 0 rfl (.ask (Database.Reads.fieldsAtSite 0 1 1 0 _))
  have now := now.move 0 rfl (.note _ _ _)
  have now := now.start (.store tornField) trivial
  have now := now.move 1 rfl (.begin (Database.Begins.opened 1 _))
  have now := now.move 1 rfl (.ask (.written (Database.Answers.shareSites 1 1 _ (by
    intro rupture _ other apart owns
    obtain ⟨transaction, found, member⟩ := owns
    simp [Database.setTransaction, quiet, apart] at found))))
  have now := now.move 1 rfl (.ask (.written (Database.Answers.insertField 1 tornField _ 1 (by
    intro other row there
    unfold Database.view at there
    split at there
    · cases there
    · rename_i transaction found
      by_cases second : other = 1
      · subst second
        cases found
        cases there
      · simp [Database.setTransaction, Database.share, quiet, second] at found)
    ⟨_, List.mem_singleton_self _, rfl⟩)))
  have now := now.move 1 rfl (.commit (Database.Commits.accepted 1 _))
  have now := now.move 0 rfl (.ask (Database.Reads.fieldsAtSite 0 1 1 1 _))
  exact ⟨_, now, rfl, rfl⟩

/-- No tables that were committed at any time of the run have the values that were read. The field
that was stored has a value for the site that got the filler. -/
theorem sites_read_torn : ∃ (tables : Tables) (traffic : Traffic Database Request StoreError Given)
    (call : Call Request StoreError Given) (aligned : GroundMotion.AlignedField),
    Traffic.Reaches service ⟨quiet tables, []⟩ traffic ∧ call ∈ traffic.calls ∧
    call.request = .read 1 1 [0, 1] ∧ call.session = .done (.read aligned) ∧
    (∀ between, Traffic.Reaches service ⟨quiet tables, []⟩ between →
      Traffic.Reaches service between traffic →
        aligned ≠ between.store.committed.alignedAt 1 1 [0, 1]) ∧
    aligned.ruptures = [1] ∧ aligned.rows = [(0, [.zero]), (1, [strong])] ∧
    traffic.store.committed.valuesAtSite 1 1 0 = [(1, strong)] := by
  obtain ⟨traffic, reached, committed, answered⟩ := torn_reached
  refine ⟨tornTables, traffic, _, tornAligned, reached, List.mem_of_getElem? answered, rfl, rfl, ?_,
    rfl, rfl, ?_⟩
  · intro between before after
    obtain ⟨_, grows⟩ := requests_hold_after tornTables between traffic before after
    have bound := grows.length_le
    rw [← grows.eq_upTo, committed]
    rw [committed] at bound
    -- the tables were those before the field or those with it
    rcases Nat.le_one_iff_eq_zero_or_eq_one.1 bound with none | one
    · rw [none]
      decide
    · rw [one]
      decide
  · rw [committed]
    decide

theorem sites_read_in_turn_torn : ∃ traffic,
    Traffic.Reaches service ⟨quiet tornTables, []⟩ traffic ∧
    ∃ counts : List Nat, counts.length = 2 ∧ counts.Pairwise (· ≤ ·) ∧
      tornAligned = GroundMotion.align ((([0, 1] : List SiteId).zip counts).map (fun read =>
        (read.1, (traffic.store.committed.upTo read.2).valuesAtSite 1 1 read.1))) := by
  obtain ⟨traffic, reached, committed, answered⟩ := torn_reached
  obtain ⟨⟨counts, length, ascending, _, same⟩, _, _⟩ := sites_read_in_turn tornTables _ traffic
    .refl reached 0 (Nat.zero_le 0) 1 1 [0, 1] tornAligned answered
  exact ⟨traffic, reached, counts, length, ascending, same⟩

end SiteValues

end HazardStore
