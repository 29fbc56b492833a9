import HazardStore.Session.Run
/-!
Runs of composed sessions. A run of a sequence is one run after the other, and the run of a
transaction is the run of its work between a begin and the end that the work calls for.
-/

namespace HazardStore

namespace Run

variable {σ ε α β : Type}

def andThen (run : Run σ ε α) (next : α → σ → Run σ ε β) : Run σ ε β :=
  match run.result with
  | .ok value =>
      { result := (next value run.state).result
        state := (next value run.state).state
        trace := run.trace ++ (next value run.state).trace }
  | .error error => { result := .error error, state := run.state, trace := run.trace }

@[simp]
theorem after_result (event : Event) (run : Run σ ε α) : (run.after event).result = run.result :=
  rfl

@[simp]
theorem after_state (event : Event) (run : Run σ ε α) : (run.after event).state = run.state :=
  rfl

theorem andThen_after (event : Event) (run : Run σ ε α) (next : α → σ → Run σ ε β) :
    (run.after event).andThen next = (run.andThen next).after event := by
  obtain ⟨result, state, trace⟩ := run
  cases result <;> rfl

theorem andThen_of_ok {run : Run σ ε α} {value : α} (succeeded : run.result = .ok value)
    (next : α → σ → Run σ ε β) :
    run.andThen next = ⟨(next value run.state).result, (next value run.state).state,
      run.trace ++ (next value run.state).trace⟩ := by
  unfold andThen
  rw [succeeded]

theorem andThen_of_error {run : Run σ ε α} {error : ε} (failed : run.result = .error error)
    (next : α → σ → Run σ ε β) : run.andThen next = ⟨.error error, run.state, run.trace⟩ := by
  unfold andThen
  rw [failed]

theorem eq_of_result {run : Run σ ε α} {result : Except ε α} (came : run.result = result) :
    run = ⟨result, run.state, run.trace⟩ := by
  rw [← came]

theorem andThen_trace (run : Run σ ε α) (next : α → σ → Run σ ε β) :
    (run.andThen next).trace = run.trace ∨
      ∃ value, (run.andThen next).trace = run.trace ++ (next value run.state).trace := by
  cases came : run.result with
  | error error => exact Or.inl (congrArg Run.trace (andThen_of_error came next))
  | ok value => exact Or.inr ⟨value, congrArg Run.trace (andThen_of_ok came next)⟩

theorem ok_of_toOption {result : Except ε α} {value : α} (same : result.toOption = some value) :
    result = .ok value := by
  cases result with
  | ok other => exact congrArg Except.ok (Option.some.inj same)
  | error error => cases same

theorem andThen_result_eq_ok {run : Run σ ε α} {next : α → σ → Run σ ε β} {value : β} :
    (run.andThen next).result = .ok value ↔
      ∃ first, run.result = .ok first ∧ (next first run.state).result = .ok value ∧
        (run.andThen next).state = (next first run.state).state := by
  obtain ⟨result, state, trace⟩ := run
  cases result with
  | ok first => simp [andThen]
  | error error => simp [andThen]

end Run

namespace Dialogue

variable {ε α β : Type} {statement : Statement}

def firstOf? (decode : Decoder statement α) :
    Except ServerError (Reply statement) → Except Fault (Option α)
  | .ok reply =>
      match reply.rowList.head? with
      | none => .ok none
      | some row => (decode row).map some
  | .error error => .error (.server error)

def firstOf (decode : Decoder statement α)
    (outcome : Except ServerError (Reply statement)) : Except Fault α :=
  match firstOf? decode outcome with
  | .ok (some value) => .ok value
  | .ok none => .error .noRow
  | .error fault => .error fault

def allOf (decode : Decoder statement α) :
    Except ServerError (Reply statement) → Except Fault (List α)
  | .ok reply => decodeAll decode reply.rowList
  | .error error => .error (.server error)

theorem decodeAll_map {row : Type} {decode : row → Except Fault β} {cells : α → row}
    {reading : α → β} (reads : ∀ value, decode (cells value) = .ok (reading value))
    (values : List α) : decodeAll decode (values.map cells) = .ok (values.map reading) := by
  induction values with
  | nil => rfl
  | cons value others ih =>
      rw [List.map_cons, decodeAll, reads, ih]
      rfl

theorem allOf_rows {decode : Decoder statement β} {cells : α → Cells statement.columns}
    {reading : α → β} (reads : ∀ value, decode (cells value) = .ok (reading value))
    (values : List α) :
    allOf decode (.ok (.rows (values.map cells))) = .ok (values.map reading) :=
  decodeAll_map reads values

theorem firstOf?_rows {decode : Decoder statement β} {cells : α → Cells statement.columns}
    {reading : α → β} (reads : ∀ value, decode (cells value) = .ok (reading value))
    (values : List α) :
    firstOf? decode (.ok (.rows (values.map cells))) = .ok (values.head?.map reading) := by
  cases values with
  | nil => rfl
  | cons value others =>
      change (decode (cells value)).map some = _
      rw [reads]
      rfl

theorem firstOf_row {decode : Decoder statement α} {row : Cells statement.columns} {value : α}
    (reads : decode row = .ok value) : firstOf decode (.ok (.rows [row])) = .ok value := by
  have read : firstOf? decode (.ok (.rows [row])) = .ok (some value) :=
    congrArg (Except.map some) reads
  rw [firstOf, read]

theorem elements_map_some (column : ColumnLabel) (values : List α) :
    elements column (values.map some) = .ok values := by
  have reads : ∀ value : α, required column (some value) = .ok (id value) := fun _ => rfl
  rw [elements, decodeAll_map reads, List.map_id]

theorem elements?_map_some (column : ColumnLabel) (values? : Option (List α)) :
    elements? column (values?.map (List.map some)) = .ok values? := by
  cases values? with
  | none => rfl
  | some values =>
      change (elements column (values.map some)).map some = _
      rw [elements_map_some]
      rfl

variable [OfFault ε]

theorem decoded_map (outcome : Except Fault α) (reading : α → β) :
    (decoded (outcome.map reading) : Dialogue ε β) =
      (decoded outcome).bind (fun value => .done (reading value)) := by
  cases outcome <;> rfl

theorem all_eq (decode : Decoder statement α) :
    (all statement decode : Dialogue ε (List α)) =
      .ask statement (fun outcome => decoded (allOf decode outcome)) := by
  apply congrArg (Dialogue.ask statement)
  funext outcome
  cases outcome <;> rfl

theorem first?_eq (decode : Decoder statement α) :
    (first? statement decode : Dialogue ε (Option α)) =
      .ask statement (fun outcome => decoded (firstOf? decode outcome)) := by
  apply congrArg (Dialogue.ask statement)
  funext outcome
  cases outcome with
  | error error => rfl
  | ok reply =>
      cases reply with
      | affected count => rfl
      | rows answered => cases answered <;> rfl

theorem first_eq (decode : Decoder statement α) :
    (first statement decode : Dialogue ε α) =
      .ask statement (fun outcome => decoded (firstOf decode outcome)) := by
  unfold first
  rw [first?_eq]
  apply congrArg (Dialogue.ask statement)
  funext outcome
  simp only [firstOf]
  cases firstOf? decode outcome with
  | error fault => rfl
  | ok found =>
      cases found <;> rfl

end Dialogue

namespace Session

variable {σ ε α β : Type}

@[simp]
theorem run_done (server : Server σ) (value : α) (state : σ) :
    (Session.done value : Session ε α).run server state = ⟨.ok value, state, []⟩ :=
  rfl

@[simp]
theorem run_ask (server : Server σ) (statement : Statement)
    (next : Except ServerError (Reply statement) → Session ε α) (state : σ) :
    (Session.ask statement next).run server state =
      ((next (server.answer statement state).1).run server
        (server.answer statement state).2).after (.sent statement) :=
  rfl

@[simp]
theorem run_note (server : Server σ) (entry : JournalEntry) (next : Session ε α) (state : σ) :
    (Session.note entry next).run server state = (next.run server state).after (.noted entry) :=
  rfl

@[simp]
theorem run_begin (server : Server σ) (next : Except ServerError Unit → Session ε α) (state : σ) :
    (Session.begin next).run server state =
      ((next (server.begin state).1).run server (server.begin state).2).after
        (.began (accepted (server.begin state).1)) :=
  rfl

@[simp]
theorem run_commit (server : Server σ) (next : Except ServerError Unit → Session ε α) (state : σ) :
    (Session.commit next).run server state =
      ((next (server.commit state).1).run server (server.commit state).2).after
        (.committed (accepted (server.commit state).1)) :=
  rfl

@[simp]
theorem run_rollback (server : Server σ) (next : Session ε α) (state : σ) :
    (Session.rollback next).run server state =
      (next.run server (server.rollback state)).after .rolledBack :=
  rfl

theorem run_bind (server : Server σ) (session : Session ε α) (continuation : α → Session ε β)
    (state : σ) :
    (session >>= continuation).run server state =
      (session.run server state).andThen (fun value => (continuation value).run server) := by
  change (session.bind continuation).run server state = _
  induction session generalizing state with
  | done value => rfl
  | fail error => rfl
  | ask statement next ih => rw [bind, run_ask, run_ask, Run.andThen_after, ih]
  | note entry next ih => rw [bind, run_note, run_note, Run.andThen_after, ih]
  | begin next ih => rw [bind, run_begin, run_begin, Run.andThen_after, ih]
  | commit next ih => rw [bind, run_commit, run_commit, Run.andThen_after, ih]
  | rollback next ih => rw [bind, run_rollback, run_rollback, Run.andThen_after, ih]

theorem ofDialogue_bind (dialogue : Dialogue ε α) (continuation : α → Dialogue ε β) :
    ofDialogue (dialogue >>= continuation) =
      (ofDialogue dialogue >>= fun value => ofDialogue (continuation value)) := by
  change ofDialogue (dialogue.bind continuation) = (ofDialogue dialogue).bind _
  induction dialogue with
  | done value => rfl
  | fail error => rfl
  | ask statement next ih =>
      simp only [Dialogue.bind, ofDialogue, bind]
      exact congrArg _ (funext ih)
  | note entry next ih =>
      simp only [Dialogue.bind, ofDialogue, bind]
      exact congrArg _ ih

theorem run_mapError {δ : Type} (server : Server σ) (wrap : ε → δ) (session : Session ε α)
    (state : σ) :
    (mapError wrap session).run server state =
      ⟨(session.run server state).result.mapError wrap, (session.run server state).state,
        (session.run server state).trace⟩ := by
  induction session generalizing state with
  | done value => rfl
  | fail error => rfl
  | ask statement next ih => rw [mapError, run_ask, run_ask, ih]; rfl
  | note entry next ih => rw [mapError, run_note, run_note, ih]; rfl
  | begin next ih => rw [mapError, run_begin, run_begin, ih]; rfl
  | commit next ih => rw [mapError, run_commit, run_commit, ih]; rfl
  | rollback next ih => rw [mapError, run_rollback, run_rollback, ih]; rfl

/-! ### Transactions -/

section Transactions

variable [OfFault ε]

def ending (outcome : Except ε (Ending α)) : Session ε α :=
  match outcome with
  | .ok (.keep value) => conclude (.done (.keep value))
  | .ok (.discard value) => .rollback (.done value)
  | .error error => .rollback (.fail error)

theorem run_conclude (server : Server σ) (work : Dialogue ε (Ending α)) (state : σ) :
    (conclude work).run server state =
      let finished := (ofDialogue work).run server state
      let ended := (ending finished.result).run server finished.state
      ⟨ended.result, ended.state, finished.trace ++ ended.trace⟩ := by
  induction work generalizing state with
  | done ending =>
      cases ending <;> rfl
  | fail error => rfl
  | ask statement next ih =>
      rw [conclude, ofDialogue, run_ask, run_ask, ih]
      rfl
  | note entry next ih =>
      rw [conclude, ofDialogue, run_note, run_note, ih]
      rfl

theorem run_bracket_of_refused {server : Server σ} {state : σ} {error : ServerError}
    (refused : (server.begin state).1 = .error error) (work : Dialogue ε (Ending α)) :
    (bracket work).run server state =
      ⟨.error (OfFault.ofFault (.server error)), (server.begin state).2, [.began false]⟩ := by
  unfold bracket
  rw [run_begin, refused]
  rfl

theorem run_bracket_of_opened {server : Server σ} {state : σ}
    (opened : (server.begin state).1 = .ok ()) (work : Dialogue ε (Ending α)) :
    (bracket work).run server state =
      let finished := (ofDialogue work).run server (server.begin state).2
      let ended := (ending finished.result).run server finished.state
      ⟨ended.result, ended.state, .began true :: (finished.trace ++ ended.trace)⟩ := by
  unfold bracket
  rw [run_begin, opened, run_conclude]
  rfl

/-- A transaction gives a value that it keeps only after its work and its commit succeeded. -/
theorem run_bracket_keeps (server : Server σ) (work : Dialogue ε (Ending α)) (state : σ) (value : α)
    (keeps : ∀ other, ((ofDialogue work).run server (server.begin state).2).result ≠
      .ok (.discard other))
    (succeeded : ((bracket work).run server state).result = .ok value) :
    let worked := (ofDialogue work).run server (server.begin state).2
    worked.result = .ok (.keep value) ∧ (server.commit worked.state).1 = .ok () ∧
      ((bracket work).run server state).state = (server.commit worked.state).2 := by
  cases opened : (server.begin state).1 with
  | error error =>
      rw [run_bracket_of_refused opened] at succeeded
      cases succeeded
  | ok =>
      rw [run_bracket_of_opened opened] at succeeded ⊢
      dsimp only at succeeded ⊢
      generalize (ofDialogue work).run server (server.begin state).2 = worked at *
      cases finished : worked.result with
      | error error => rw [finished] at succeeded; cases succeeded
      | ok ended =>
          cases ended with
          | discard other => exact absurd finished (keeps other)
          | keep kept =>
              rw [finished] at succeeded
              simp only [ending, conclude, run_commit, Run.after_result, Run.after_state]
                at succeeded ⊢
              cases committed : (server.commit worked.state).1 with
              | error error => rw [committed] at succeeded; cases succeeded
              | ok =>
                  rw [committed] at succeeded
                  cases succeeded
                  exact ⟨rfl, rfl, rfl⟩

/-- A transaction whose work is done and kept succeeds where begin and commit do. -/
theorem run_bracket_of_keep (server : Server σ) (work : Dialogue ε (Ending α)) (state : σ)
    (value : α) (begun : (server.begin state).1 = .ok ())
    (worked : ((ofDialogue work).run server (server.begin state).2).result = .ok (.keep value))
    (committed : ∀ after, (server.commit after).1 = .ok ()) :
    ((bracket work).run server state).result = .ok value := by
  rw [run_bracket_of_opened begun]
  simp only [worked, ending, conclude, run_commit, Run.after_result, committed, run_done]

end Transactions

section Answers

variable [OfFault ε]

theorem ofDialogue_first? (statement : Statement) (decode : Dialogue.Decoder statement α) :
    (ofDialogue (Dialogue.first? statement decode) : Session ε (Option α)) =
      .ask statement (fun outcome =>
        ofDialogue (Dialogue.decoded (Dialogue.firstOf? decode outcome))) := by
  rw [Dialogue.first?_eq]
  rfl

theorem run_decoded (server : Server σ) (outcome : Except Fault α) (state : σ) :
    (ofDialogue (Dialogue.decoded outcome) : Session ε α).run server state =
      ⟨outcome.mapError OfFault.ofFault, state, []⟩ := by
  cases outcome <;> rfl

theorem run_first? (server : Server σ) (statement : Statement)
    (decode : Dialogue.Decoder statement α) (state : σ) :
    (ofDialogue (Dialogue.first? statement decode) : Session ε (Option α)).run server state =
      ⟨(Dialogue.firstOf? decode (server.answer statement state).1).mapError OfFault.ofFault,
        (server.answer statement state).2, [.sent statement]⟩ := by
  rw [Dialogue.first?_eq, ofDialogue, run_ask, run_decoded]
  rfl

theorem run_first (server : Server σ) (statement : Statement)
    (decode : Dialogue.Decoder statement α) (state : σ) :
    (ofDialogue (Dialogue.first statement decode) : Session ε α).run server state =
      ⟨(Dialogue.firstOf decode (server.answer statement state).1).mapError OfFault.ofFault,
        (server.answer statement state).2, [.sent statement]⟩ := by
  rw [Dialogue.first_eq, ofDialogue, run_ask, run_decoded]
  rfl

theorem run_all (server : Server σ) (statement : Statement)
    (decode : Dialogue.Decoder statement α) (state : σ) :
    (ofDialogue (Dialogue.all statement decode) : Session ε (List α)).run server state =
      ⟨(Dialogue.allOf decode (server.answer statement state).1).mapError OfFault.ofFault,
        (server.answer statement state).2, [.sent statement]⟩ := by
  rw [Dialogue.all_eq, ofDialogue, run_ask, run_decoded]
  rfl

/-- Rows that all can be read are read in their order. -/
theorem run_all_of_rows (server : Server σ) {statement : Statement}
    {decode : Dialogue.Decoder statement β} {cells : α → Cells statement.columns} {reading : α → β}
    (reads : ∀ value, decode (cells value) = .ok (reading value)) {state after : σ}
    {values : List α}
    (answered : server.answer statement state = (.ok (.rows (values.map cells)), after)) :
    (ofDialogue (Dialogue.all statement decode) : Session ε (List β)).run server state =
      ⟨.ok (values.map reading), after, [.sent statement]⟩ := by
  rw [run_all, answered, Dialogue.allOf_rows reads]
  rfl

theorem run_first?_of_rows (server : Server σ) {statement : Statement}
    {decode : Dialogue.Decoder statement β} {cells : α → Cells statement.columns} {reading : α → β}
    (reads : ∀ value, decode (cells value) = .ok (reading value)) {state after : σ}
    {values : List α}
    (answered : server.answer statement state = (.ok (.rows (values.map cells)), after)) :
    (ofDialogue (Dialogue.first? statement decode) : Session ε (Option β)).run server state =
      ⟨.ok (values.head?.map reading), after, [.sent statement]⟩ := by
  rw [run_first?, answered, Dialogue.firstOf?_rows reads]
  rfl

theorem run_first_of_row (server : Server σ) {statement : Statement}
    {decode : Dialogue.Decoder statement α} {row : Cells statement.columns} {value : α}
    (reads : decode row = .ok value) {state after : σ}
    (answered : server.answer statement state = (.ok (.rows [row]), after)) :
    (ofDialogue (Dialogue.first statement decode) : Session ε α).run server state =
      ⟨.ok value, after, [.sent statement]⟩ := by
  rw [run_first, answered, Dialogue.firstOf_row reads]
  rfl

theorem ofDialogue_count (statement : Statement) :
    (ofDialogue (Dialogue.count statement) : Session ε Nat) = .ask statement fun
      | .ok reply => .done reply.rowsAffected
      | .error error => .fail (OfFault.ofFault (.server error)) := by
  apply congrArg (Session.ask statement)
  funext outcome
  cases outcome <;> rfl

theorem run_count_of_answer (server : Server σ) (statement : Statement) (state after : σ)
    (reply : Reply statement) (answered : server.answer statement state = (.ok reply, after)) :
    (ofDialogue (Dialogue.count statement : Dialogue ε Nat)).run server state =
      ⟨.ok reply.rowsAffected, after, [.sent statement]⟩ := by
  rw [ofDialogue_count, run_ask, answered]
  rfl

/-- A count succeeds only when the statement is answered, and moves the server by that alone. -/
theorem run_count_ok (server : Server σ) (statement : Statement) (state : σ) (total : Nat)
    (succeeded : ((ofDialogue (Dialogue.count statement : Dialogue ε Nat)).run server state).result =
      .ok total) :
    ∃ reply after, server.answer statement state = (.ok reply, after) ∧
      reply.rowsAffected = total ∧
      ((ofDialogue (Dialogue.count statement : Dialogue ε Nat)).run server state).state = after := by
  rw [ofDialogue_count] at succeeded ⊢
  simp only [run_ask, Run.after_result, Run.after_state] at succeeded ⊢
  cases answered : server.answer statement state with
  | mk outcome after =>
      rw [answered] at succeeded
      cases outcome with
      | error error => cases succeeded
      | ok reply => exact ⟨reply, after, rfl, Except.ok.inj succeeded, rfl⟩

end Answers

end Session

end HazardStore
