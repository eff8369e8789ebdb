import BibEdit.Database.Tables

set_option autoImplicit false

namespace BibEdit.Database

/-- The tables as they are stored, and as a transaction sees them while one is open. -/
structure Connection where
  committed : Tables
  pending : Option Tables := none
  deriving DecidableEq

namespace Connection

def current (connection : Connection) : Tables := connection.pending.getD connection.committed

/-- Outside of a transaction every change is stored at once. -/
def change (connection : Connection) (tables : Tables) : Connection :=
  match connection.pending with
  | some _ => { connection with pending := some tables }
  | none => { connection with committed := tables }

end Connection

abbrev Session (ε α : Type) := ExceptT ε (StateM Connection) α

namespace Session

variable {ε α : Type}

def runOn (session : Session ε α) (connection : Connection) : Except ε α × Connection :=
  session.run connection

/-- A statement that fails changes nothing. -/
def execute (wrap : Fault -> ε) (statement : Tables -> Except Fault Tables) : Session ε Unit := do
  let connection <- get
  match statement connection.current with
  | .ok tables => set (connection.change tables)
  | .error fault => throw (wrap fault)

def query (read : Tables -> Except ε α) : Session ε α := do
  match read (<- get).current with
  | .ok value => return value
  | .error error => throw error

def beginTransaction : Session ε Unit := modify fun connection =>
  { connection with pending := some connection.current }

def commit : Session ε Unit := modify fun connection => ⟨connection.current, none⟩

def rollback : Session ε Unit := modify fun connection => { connection with pending := none }

/-- Work that is stored as a whole, or not at all when it fails. -/
def transaction (body : Session ε α) : Session ε α := do
  beginTransaction
  tryCatch (do
    let result <- body
    commit
    return result) fun error => do
    rollback
    throw error

/-- Work through a connection of its own; what was not committed when it is closed is lost. -/
def onTables (session : Session ε α) (tables : Tables) : Except ε α × Tables :=
  let (result, connection) := session.runOn ⟨tables, none⟩
  (result, connection.committed)

end Session

end BibEdit.Database
