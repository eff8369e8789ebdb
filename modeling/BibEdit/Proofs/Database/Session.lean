import BibEdit.Database.Session
import BibEdit.Proofs.Success

set_option autoImplicit false

/-! What work inside of a transaction does, and what is left of it afterwards. -/

namespace BibEdit.Database.Session

variable {ε α β : Type}

theorem runOn_bind (session : Session ε α) (next : α -> Session ε β) (connection : Connection) :
    (session >>= next).runOn connection =
      match session.runOn connection with
      | (.ok value, after) => (next value).runOn after
      | (.error error, after) => (.error error, after) := by
  have unfolded : (session >>= next).runOn connection =
      (StateT.bind session.run fun result =>
        ExceptT.bindCont next result) connection := rfl
  cases ran : session.runOn connection with
  | mk result after =>
    have start : session.run connection = (result, after) := ran
    rw [unfolded, StateT.bind, start]
    cases result <;> rfl

theorem runOn_execute (wrap : Fault -> ε) (statement : Tables -> Except Fault Tables)
    (connection : Connection) :
    (execute wrap statement).runOn connection =
      match statement connection.current with
      | .ok tables => (.ok (), connection.change tables)
      | .error fault => (.error (wrap fault), connection) := by
  have read : (get : Session ε Connection).runOn connection = (.ok connection, connection) := rfl
  rw [execute, runOn_bind, read]
  dsimp only
  cases statement connection.current <;> rfl

theorem runOn_query (read : Tables -> Except ε α) (connection : Connection) :
    (query read).runOn connection = (read connection.current, connection) := by
  have asked : (get : Session ε Connection).runOn connection = (.ok connection, connection) := rfl
  rw [query, runOn_bind, asked]
  dsimp only
  cases read connection.current <;> rfl

theorem runOn_tryCatch (session : Session ε α) (handler : ε -> Session ε α)
    (connection : Connection) :
    (tryCatch session handler).runOn connection =
      match session.runOn connection with
      | (.ok value, after) => (.ok value, after)
      | (.error error, after) => (handler error).runOn after := by
  have unfolded : (tryCatch session handler).runOn connection =
      (ExceptT.tryCatch session handler).run connection := rfl
  cases ran : session.runOn connection with
  | mk result after =>
    have start : session.run connection = (result, after) := ran
    rw [unfolded, ExceptT.tryCatch, ExceptT.run_mk]
    show StateT.bind session.run _ connection = _
    rw [StateT.bind, start]
    cases result <;> rfl

theorem runOn_transaction (body : Session ε α) (connection : Connection) :
    (transaction body).runOn connection =
      match body.runOn { connection with pending := some connection.current } with
      | (.ok value, after) => (.ok value, ⟨after.current, none⟩)
      | (.error error, after) => (.error error, { after with pending := none }) := by
  have begun : (beginTransaction : Session ε Unit).runOn connection =
      (.ok (), { connection with pending := some connection.current }) := rfl
  rw [transaction, runOn_bind, begun]
  dsimp only
  rw [runOn_tryCatch, runOn_bind]
  rcases body.runOn { connection with pending := some connection.current } with ⟨_ | _, _⟩ <;> rfl

/-- A result and the tables afterwards are those that were foreseen; after an error the tables may
be anything. -/
def Agrees (foreseen : Except ε (α × Tables)) (result : Except ε α) (after : Tables) : Prop :=
  match foreseen with
  | .ok (value, tables) => result = .ok value /\ after = tables
  | .error error => result = .error error

/-- Inside of a transaction the work leaves alone what is stored, and does to the pending tables
what the function says. -/
def Follows (session : Session ε α) (spec : Tables -> Except ε (α × Tables)) : Prop :=
  ∀ committed before, ∃ result after,
    session.runOn ⟨committed, some before⟩ = (result, ⟨committed, some after⟩) /\
      Agrees (spec before) result after

theorem Follows.congr {session : Session ε α} {spec other : Tables -> Except ε (α × Tables)}
    (follows : Follows session spec) (same : ∀ tables, spec tables = other tables) :
    Follows session other := by
  rwa [← funext same]

theorem follows_pure (value : α) :
    Follows (pure value : Session ε α) fun tables => .ok (value, tables) :=
  fun _ _ => ⟨_, _, rfl, rfl, rfl⟩

theorem follows_throw (error : ε) : Follows (throw error : Session ε α) fun _ => .error error :=
  fun _ _ => ⟨_, _, rfl, rfl⟩

theorem follows_bind (session : Session ε α) (next : α -> Session ε β)
    (spec : Tables -> Except ε (α × Tables)) (specNext : α -> Tables -> Except ε (β × Tables))
    (first : Follows session spec) (later : ∀ value, Follows (next value) (specNext value)) :
    Follows (session >>= next) fun tables =>
      (spec tables).bind fun done => specNext done.1 done.2 := by
  intro committed before
  obtain ⟨result, after, ran, agrees⟩ := first committed before
  rw [runOn_bind, ran]
  dsimp only
  cases outcome : spec before with
  | error error =>
    rw [outcome] at agrees
    cases agrees
    exact ⟨_, _, rfl, rfl⟩
  | ok done =>
    obtain ⟨value, tables⟩ := done
    rw [outcome] at agrees
    obtain ⟨rfl, rfl⟩ := agrees
    exact later value committed after

theorem follows_execute (wrap : Fault -> ε) (statement : Tables -> Except Fault Tables) :
    Follows (execute wrap statement) fun tables =>
      ((statement tables).mapError wrap).map fun after => ((), after) := by
  intro committed before
  have current : (Connection.mk committed (some before)).current = before := rfl
  rw [runOn_execute, current]
  dsimp only
  cases statement before with
  | error fault => exact ⟨_, _, rfl, rfl⟩
  | ok tables => exact ⟨_, _, rfl, rfl, rfl⟩

theorem follows_query (read : Tables -> Except ε α) :
    Follows (query read) fun tables => (read tables).map fun value => (value, tables) := by
  intro committed before
  have current : (Connection.mk committed (some before)).current = before := rfl
  rw [runOn_query, current]
  dsimp only
  cases read before with
  | error error => exact ⟨_, _, rfl, rfl⟩
  | ok value => exact ⟨_, _, rfl, rfl, rfl⟩

theorem follows_forM (items : List β) (work : β -> Session ε Unit)
    (step : Tables -> β -> Except ε Tables)
    (each : ∀ item ∈ items, Follows (work item) fun tables =>
      (step tables item).map fun after => ((), after)) :
    Follows (items.forM work) fun tables =>
      (items.foldlM step tables).map fun after => ((), after) := by
  induction items with
  | nil => exact follows_pure ()
  | cons item rest ih =>
    have first := each item (by simp)
    have later := ih fun other member => each other (List.mem_cons_of_mem _ member)
    intro committed before
    obtain ⟨result, after, ran, agrees⟩ := follows_bind _ _ _ _ first (fun _ => later) committed before
    refine ⟨result, after, ran, ?_⟩
    cases outcome : step before item with
    | error error => simpa [outcome, Except.map, bind, Except.bind] using agrees
    | ok tables => simpa [outcome, Except.map, bind, Except.bind] using agrees

theorem runOn_transaction_of_follows (body : Session ε α) (spec : Tables -> Except ε (α × Tables))
    (follows : Follows body spec) (tables : Tables) :
    (transaction body).runOn ⟨tables, none⟩ =
      match spec tables with
      | .ok (value, after) => (.ok value, ⟨after, none⟩)
      | .error error => (.error error, ⟨tables, none⟩) := by
  obtain ⟨result, after, ran, agrees⟩ := follows tables tables
  rw [runOn_transaction]
  show (match body.runOn ⟨tables, some tables⟩ with
    | (.ok value, after) => (_, _)
    | (.error error, after) => (_, _)) = _
  rw [ran]
  cases outcome : spec tables with
  | error error =>
    rw [outcome] at agrees
    cases agrees
    rfl
  | ok done =>
    rw [outcome] at agrees
    obtain ⟨rfl, rfl⟩ := agrees
    rfl

end BibEdit.Database.Session
