import HazardStore.Program.Settings
import HazardStore.Proofs.Text.Numeral
import HazardStore.Proofs.Text.Trim
/-!
Which environments give settings. Each of the three variables is judged by what it says alone: the
address has to be legible, a number has to be a numeral in a range or be left out. All three have to
be in order; where they are not, the first that is at fault is the one that the error is about.
-/

namespace HazardStore.Settings

open Text

def HasAddress (environment : Environment) : Prop :=
  ∃ url, environment "DATABASE_URL" = some url ∧ ∃ c ∈ url.toList, isBlank c = false

/-- The number that a variable gives: a default where it is left out, and otherwise the number of
its numeral, which has to be in a range. -/
inductive Gives (least greatest default : Nat) : Option String → Nat → Prop where
  | unset : Gives least greatest default none default
  | numeral (value : String) (number : Nat) (denotes : Numeral (trim value.toList) number)
      (enough : least ≤ number) (fits : number ≤ greatest) :
      Gives least greatest default (some value) number

/-- A positive number of 32 bits, five by default. -/
def GivesConnections (environment : Environment) (limit : Nat) : Prop :=
  Gives 1 4294967295 5 (environment "DB_MAX_CONNECTIONS") limit

/-- A number of 64 bits, thirty by default. -/
def GivesTimeout (environment : Environment) (seconds : Nat) : Prop :=
  Gives 0 18446744073709551615 30 (environment "DB_ACQUIRE_TIMEOUT_SECS") seconds

def Unreadable (greatest : Nat) (value : String) : Prop :=
  ∀ number, Numeral (trim value.toList) number → greatest < number

/-- The first variable at fault, in the order address, connections, timeout. A number that cannot be
read is reported with its text as it stands in the environment. -/
inductive FirstFault (environment : Environment) : SettingsError → Prop where
  | address (illegible : ¬HasAddress environment) :
      FirstFault environment (.missing .databaseUrl)
  | connections (value : String) (address : HasAddress environment)
      (given : environment "DB_MAX_CONNECTIONS" = some value)
      (unreadable : Unreadable 4294967295 value) :
      FirstFault environment (.invalid .maxConnections value)
  | noConnections (value : String) (address : HasAddress environment)
      (given : environment "DB_MAX_CONNECTIONS" = some value)
      (zero : Numeral (trim value.toList) 0) :
      FirstFault environment (.invalid .maxConnections "0")
  | timeout (value : String) (limit : Nat) (address : HasAddress environment)
      (connections : GivesConnections environment limit)
      (given : environment "DB_ACQUIRE_TIMEOUT_SECS" = some value)
      (unreadable : Unreadable 18446744073709551615 value) :
      FirstFault environment (.invalid .acquireTimeout value)

variable {environment : Environment}

theorem address_eq_ok_iff {url : String} : address environment = .ok url ↔
    environment "DATABASE_URL" = some url ∧ ∃ c ∈ url.toList, isBlank c = false := by
  change _ ↔ environment Setting.databaseUrl.name = some url ∧ _
  unfold address
  cases environment Setting.databaseUrl.name with
  | none => simp
  | some given =>
      dsimp only
      by_cases blank : trim given.toList = []
      · have noSolid := mt (trim_ne_nil_iff given.toList).2 (not_not_intro blank)
        rw [if_pos blank]
        constructor
        · intro impossible
          cases impossible
        · intro both
          obtain ⟨same, solid⟩ := both
          cases same
          exact absurd solid noSolid
      · have solid := (trim_ne_nil_iff given.toList).1 blank
        rw [if_neg blank]
        constructor
        · intro same
          cases same
          exact ⟨rfl, solid⟩
        · intro both
          exact congrArg Except.ok (Option.some.inj both.1)

theorem address_eq_error_iff {error : SettingsError} : address environment = .error error ↔
    ¬HasAddress environment ∧ error = .missing .databaseUrl := by
  have legible : HasAddress environment ↔ ∃ url, address environment = .ok url :=
    exists_congr (fun _ => address_eq_ok_iff.symm)
  rw [legible]
  unfold address
  cases environment Setting.databaseUrl.name with
  | none => simp [eq_comm]
  | some given =>
      dsimp only
      by_cases blank : trim given.toList = []
      · simp [blank, eq_comm]
      · simp [blank]

theorem numberOr_eq_ok_iff (setting : Setting) (greatest default number : Nat) :
    numberOr environment setting (greatest + 1) default = .ok number ↔
      Gives 0 greatest default (environment setting.name) number := by
  unfold numberOr
  cases environment setting.name with
  | none =>
      constructor
      · intro same
        cases same
        exact .unset
      · intro gives
        cases gives
        rfl
  | some value =>
      dsimp only
      constructor
      · intro accepted
        cases read : boundedNumeral? (greatest + 1) (trim value.toList) with
        | none => rw [read] at accepted; cases accepted
        | some given =>
            rw [read] at accepted
            cases accepted
            obtain ⟨denotes, below⟩ := (boundedNumeral?_eq_some_iff _).1 read
            exact .numeral value number denotes (Nat.zero_le _) (Nat.le_of_lt_succ below)
      · intro gives
        cases gives with
        | numeral _ _ denotes _ fits =>
            rw [(boundedNumeral?_eq_some_iff _).2 ⟨denotes, Nat.lt_succ_of_le fits⟩]

theorem numberOr_eq_error_iff (setting : Setting) (greatest default : Nat) (error : SettingsError) :
    numberOr environment setting (greatest + 1) default = .error error ↔
      ∃ value, environment setting.name = some value ∧ Unreadable greatest value ∧
        error = .invalid setting value := by
  unfold numberOr
  cases environment setting.name with
  | none => simp
  | some value =>
      dsimp only
      cases read : boundedNumeral? (greatest + 1) (trim value.toList) with
      | some given =>
          obtain ⟨denotes, below⟩ := (boundedNumeral?_eq_some_iff _).1 read
          constructor
          · intro impossible
            cases impossible
          · intro faulty
            obtain ⟨_, same, unreadable, _⟩ := faulty
            cases same
            have above := unreadable given denotes
            omega
      | none =>
          have unreadable : Unreadable greatest value := by
            intro number denotes
            apply Nat.lt_of_not_le
            intro fits
            have accepted := (boundedNumeral?_eq_some_iff _).2 ⟨denotes, Nat.lt_succ_of_le fits⟩
            rw [read] at accepted
            cases accepted
          constructor
          · intro same
            cases same
            exact ⟨value, rfl, unreadable, rfl⟩
          · intro faulty
            obtain ⟨_, same, _, reported⟩ := faulty
            cases same
            rw [reported]

theorem gives_positive_iff {greatest default number : Nat} {given : Option String}
    (nonzero : default ≠ 0) :
    Gives 1 greatest default given number ↔ Gives 0 greatest default given number ∧ number ≠ 0 := by
  constructor
  · intro gives
    cases gives with
    | unset => exact ⟨.unset, nonzero⟩
    | numeral value _ denotes enough fits =>
        exact ⟨.numeral value number denotes (Nat.zero_le _) fits, Nat.one_le_iff_ne_zero.1 enough⟩
  · intro both
    obtain ⟨gives, positive⟩ := both
    cases gives with
    | unset => exact .unset
    | numeral value _ denotes _ fits =>
        exact .numeral value number denotes (Nat.one_le_iff_ne_zero.2 positive) fits

theorem connectionLimit_of_number {read : Except SettingsError Nat}
    (came : numberOr environment .maxConnections (4294967295 + 1) 5 = read) :
    connectionLimit environment = read.bind (fun limit =>
      if limit = 0 then .error (.invalid .maxConnections "0") else .ok limit) := by
  rw [← came]
  rfl

theorem connectionLimit_eq_ok_iff {limit : Nat} :
    connectionLimit environment = .ok limit ↔ GivesConnections environment limit := by
  unfold GivesConnections
  rw [gives_positive_iff (by decide)]
  change _ ↔ Gives 0 4294967295 5 (environment Setting.maxConnections.name) limit ∧ limit ≠ 0
  rw [← numberOr_eq_ok_iff]
  cases came : numberOr environment .maxConnections (4294967295 + 1) 5 with
  | error error => simp [connectionLimit_of_number came, Except.bind]
  | ok number =>
      rw [connectionLimit_of_number came]
      change (if number = 0 then _ else Except.ok number) = Except.ok limit ↔ _
      by_cases zero : number = 0
      · rw [if_pos zero, Except.ok.injEq]
        constructor
        · intro impossible
          cases impossible
        · intro both
          exact absurd (both.1.symm.trans zero) both.2
      · rw [if_neg zero, Except.ok.injEq]
        constructor
        · intro same
          exact ⟨same, same ▸ zero⟩
        · intro both
          exact both.1

theorem connectionLimit_eq_error_iff {error : SettingsError} :
    connectionLimit environment = .error error ↔
      ∃ value, environment "DB_MAX_CONNECTIONS" = some value ∧
        (Unreadable 4294967295 value ∧ error = .invalid .maxConnections value ∨
          Numeral (trim value.toList) 0 ∧ error = .invalid .maxConnections "0") := by
  cases came : numberOr environment .maxConnections (4294967295 + 1) 5 with
  | error reported =>
      obtain ⟨text, given, unreadable, same⟩ := (numberOr_eq_error_iff _ _ _ _).1 came
      change environment "DB_MAX_CONNECTIONS" = some text at given
      rw [connectionLimit_of_number came, given]
      constructor
      · intro reports
        cases reports
        exact ⟨text, rfl, Or.inl ⟨unreadable, same⟩⟩
      · intro faulty
        obtain ⟨_, here, ⟨_, told⟩ | ⟨zero, _⟩⟩ := faulty <;> cases here
        · rw [told, same]
          rfl
        · exact absurd (unreadable 0 zero) (Nat.not_lt_zero _)
  | ok number =>
      have gives := (numberOr_eq_ok_iff _ _ _ _).1 came
      change Gives 0 4294967295 5 (environment "DB_MAX_CONNECTIONS") number at gives
      rw [connectionLimit_of_number came]
      change (if number = 0 then _ else Except.ok number) = Except.error error ↔ _
      generalize environment "DB_MAX_CONNECTIONS" = given at gives
      cases gives with
      | unset => simp
      | numeral text _ denotes _ fits =>
          -- a limit that could be read is refused for being zero alone
          by_cases zero : number = 0
          · subst zero
            rw [if_pos rfl]
            constructor
            · intro reports
              cases reports
              exact ⟨text, rfl, Or.inr ⟨denotes, rfl⟩⟩
            · intro faulty
              obtain ⟨_, here, ⟨unreadable, _⟩ | ⟨_, told⟩⟩ := faulty <;> cases here
              · exact absurd (unreadable 0 denotes) (Nat.not_lt_zero _)
              · rw [told]
          · rw [if_neg zero]
            constructor
            · intro impossible
              cases impossible
            · intro faulty
              obtain ⟨_, here, ⟨unreadable, _⟩ | ⟨denotesZero, _⟩⟩ := faulty <;> cases here
              · exact absurd (unreadable number denotes) (Nat.not_lt.2 fits)
              · exact absurd (denotes.unique denotesZero) zero

section Judgements

variable {ε α β : Type} {first : Except ε α} {next : α → Except ε β}

theorem bind_eq_ok_iff {value : β} :
    first.bind next = .ok value ↔ ∃ before, first = .ok before ∧ next before = .ok value := by
  cases first with
  | error error => simp [Except.bind]
  | ok before => simp [Except.bind]

theorem bind_eq_error_iff {error : ε} : first.bind next = .error error ↔
    first = .error error ∨ ∃ before, first = .ok before ∧ next before = .error error := by
  cases first with
  | error earlier => simp [Except.bind]
  | ok before => simp [Except.bind]

end Judgements

theorem ofEnvironment_eq (environment : Environment) :
    ofEnvironment environment = (address environment).bind fun url =>
      (connectionLimit environment).bind fun limit =>
        (numberOr environment .acquireTimeout (18446744073709551615 + 1) 30).bind fun seconds =>
          .ok ⟨url, limit, seconds⟩ :=
  rfl

theorem ofEnvironment_eq_ok_iff {settings : Settings} :
    ofEnvironment environment = .ok settings ↔
      (environment "DATABASE_URL" = some settings.databaseUrl ∧
        ∃ c ∈ settings.databaseUrl.toList, isBlank c = false) ∧
      GivesConnections environment settings.maxConnections ∧
      GivesTimeout environment settings.acquireTimeout := by
  rw [ofEnvironment_eq, ← address_eq_ok_iff, ← connectionLimit_eq_ok_iff]
  change _ ↔ _ ∧ _ ∧
    Gives 0 18446744073709551615 30 (environment Setting.acquireTimeout.name) settings.acquireTimeout
  rw [← numberOr_eq_ok_iff]
  simp only [bind_eq_ok_iff]
  constructor
  · intro judged
    obtain ⟨url, addressed, limit, limited, seconds, timed, same⟩ := judged
    cases same
    exact ⟨addressed, limited, timed⟩
  · intro judged
    obtain ⟨addressed, limited, timed⟩ := judged
    exact ⟨_, addressed, _, limited, _, timed, rfl⟩

theorem ofEnvironment_eq_error_iff {error : SettingsError} :
    ofEnvironment environment = .error error ↔ FirstFault environment error := by
  have legible : HasAddress environment ↔ ∃ url, address environment = .ok url :=
    exists_congr (fun _ => address_eq_ok_iff.symm)
  rw [ofEnvironment_eq]
  simp only [bind_eq_error_iff, reduceCtorEq, and_false, exists_false, or_false]
  rw [address_eq_error_iff, connectionLimit_eq_error_iff, numberOr_eq_error_iff]
  constructor
  · intro judged
    rcases judged with ⟨illegible, same⟩ | ⟨url, addressed, judged⟩
    · rw [same]
      exact .address illegible
    · have address := legible.2 ⟨url, addressed⟩
      rcases judged with ⟨value, given, fault⟩ | ⟨limit, limited, value, given, unreadable, same⟩
      · rcases fault with ⟨unreadable, same⟩ | ⟨zero, same⟩
        · rw [same]
          exact .connections value address given unreadable
        · rw [same]
          exact .noConnections value address given zero
      · rw [same]
        exact .timeout value limit address (connectionLimit_eq_ok_iff.1 limited) given unreadable
  · intro fault
    cases fault with
    | address illegible => exact Or.inl ⟨illegible, rfl⟩
    | connections value address given unreadable =>
        obtain ⟨url, addressed⟩ := legible.1 address
        exact Or.inr ⟨url, addressed, Or.inl ⟨value, given, Or.inl ⟨unreadable, rfl⟩⟩⟩
    | noConnections value address given zero =>
        obtain ⟨url, addressed⟩ := legible.1 address
        exact Or.inr ⟨url, addressed, Or.inl ⟨value, given, Or.inr ⟨zero, rfl⟩⟩⟩
    | timeout value limit address connections given unreadable =>
        obtain ⟨url, addressed⟩ := legible.1 address
        exact Or.inr ⟨url, addressed, Or.inr ⟨limit, connectionLimit_eq_ok_iff.2 connections,
          value, given, unreadable, rfl⟩⟩

theorem ofEnvironment_congr {other : Environment}
    (same : ∀ setting : Setting, other setting.name = environment setting.name) :
    ofEnvironment other = ofEnvironment environment := by
  unfold ofEnvironment connectionLimit numberOr address
  simp only [same]

/-- Settings are made exactly of the environments whose three variables are in order, and are what
these say. Any other environment is refused for its first variable at fault, and no variable but
these three has a part in it. -/
theorem environment_judged (environment : Environment) :
    ((∃ settings, ofEnvironment environment = .ok settings) ↔
      HasAddress environment ∧ (∃ limit, GivesConnections environment limit) ∧
        ∃ seconds, GivesTimeout environment seconds) ∧
    (∀ settings, ofEnvironment environment = .ok settings →
      environment "DATABASE_URL" = some settings.databaseUrl ∧
      GivesConnections environment settings.maxConnections ∧
      GivesTimeout environment settings.acquireTimeout) ∧
    (∀ error, ofEnvironment environment = .error error ↔ FirstFault environment error) ∧
    ∀ other : Environment, other "DATABASE_URL" = environment "DATABASE_URL" →
      other "DB_MAX_CONNECTIONS" = environment "DB_MAX_CONNECTIONS" →
      other "DB_ACQUIRE_TIMEOUT_SECS" = environment "DB_ACQUIRE_TIMEOUT_SECS" →
      ofEnvironment other = ofEnvironment environment := by
  refine ⟨?_, ?_, fun _ => ofEnvironment_eq_error_iff, ?_⟩
  · constructor
    · intro made
      obtain ⟨settings, made⟩ := made
      obtain ⟨address, limit, seconds⟩ := ofEnvironment_eq_ok_iff.1 made
      exact ⟨⟨_, address⟩, ⟨_, limit⟩, ⟨_, seconds⟩⟩
    · intro inOrder
      obtain ⟨⟨url, address⟩, ⟨limit, limited⟩, ⟨seconds, timed⟩⟩ := inOrder
      exact ⟨⟨url, limit, seconds⟩, ofEnvironment_eq_ok_iff.2 ⟨address, limited, timed⟩⟩
  · intro settings made
    obtain ⟨address, limit, seconds⟩ := ofEnvironment_eq_ok_iff.1 made
    exact ⟨address.1, limit, seconds⟩
  · intro other url connections timeout
    apply ofEnvironment_congr
    intro setting
    cases setting with
    | databaseUrl => exact url
    | maxConnections => exact connections
    | acquireTimeout => exact timeout

def limitedTo (connections : String) : Environment
  | "DATABASE_URL" => some " db "
  | "DB_MAX_CONNECTIONS" => some connections
  | _ => none

theorem environment_judged_greatest :
    ofEnvironment (limitedTo "\u2003+0004294967295\n") = .ok ⟨" db ", 4294967295, 30⟩ ∧
      GivesConnections (limitedTo "\u2003+0004294967295\n") 4294967295 ∧
      ofEnvironment (limitedTo "4294967296 ") =
        .error (.invalid .maxConnections "4294967296 ") ∧
      FirstFault (limitedTo "4294967296 ") (.invalid .maxConnections "4294967296 ") ∧
      ofEnvironment (fun name => if name = "HOME" then some "0" else limitedTo "+" name) =
        ofEnvironment (limitedTo "+") := by
  have made : ofEnvironment (limitedTo "\u2003+0004294967295\n") =
      .ok ⟨" db ", 4294967295, 30⟩ := by
    rfl
  have refused : ofEnvironment (limitedTo "4294967296 ") =
      .error (.invalid .maxConnections "4294967296 ") := by
    rfl
  obtain ⟨_, given, _, _⟩ := environment_judged (limitedTo "\u2003+0004294967295\n")
  obtain ⟨_, _, faults, _⟩ := environment_judged (limitedTo "4294967296 ")
  obtain ⟨_, _, _, alone⟩ := environment_judged (limitedTo "+")
  exact ⟨made, (given _ made).2.1, refused, (faults _).1 refused, alone _ rfl rfl rfl⟩

end HazardStore.Settings
