import SqlCompiler.Catalog.Row
import SqlCompiler.Placeholder
import SqlCompiler.Version

namespace SqlCompiler

inductive Purpose
  | rows
  | effect
  | count
deriving DecidableEq

structure Request where
  purpose : Purpose
  statement : Statement

/-- A server, by its answers to a statement after some requests. -/
structure Server where
  rows : List Request → Statement → Except Error (List Row)
  effect : List Request → Statement → Except Error Bool
  count : List Request → Statement → Except Error UInt64
  lastId : List Request → Except Error (Option Int64)
  version : Option String := none

def Server.knownVersion (s : Server) : Option Version := s.version.bind Version.ofText?

/-- A session, from the requests before it to its result and the requests after it. -/
def Session (α : Type) : Type := Server → List Request → Except Error α × List Request

namespace Session

def pure {α : Type} (a : α) : Session α := fun _ sent => (.ok a, sent)

def bind {α β : Type} (x : Session α) (f : α → Session β) : Session β := fun server sent =>
  match x server sent with
  | (.ok a, sent) => f a server sent
  | (.error e, sent) => (.error e, sent)

instance : Monad Session where
  pure := Session.pure
  bind := Session.bind

instance : LawfulMonad Session :=
  LawfulMonad.mk' Session
    (by
      intro α x
      funext server sent
      change Session.bind x (fun a => Session.pure (id a)) server sent = x server sent
      unfold Session.bind
      rcases h : x server sent with ⟨_ | _, _⟩ <;> rfl)
    (by intros; rfl)
    (by
      intro α β γ x f g
      funext server sent
      change Session.bind (Session.bind x f) g server sent = Session.bind x (fun a => Session.bind (f a) g) server sent
      unfold Session.bind
      rcases x server sent with ⟨_ | _, _⟩ <;> rfl)

def of {α : Type} (result : Except Error α) : Session α := fun _ sent => (result, sent)

def attempt {α : Type} (x : Session α) : Session (Except Error α) := fun server sent =>
  let (result, sent) := x server sent
  (.ok result, sent)

def rows (s : Statement) : Session (List Row) := fun server sent => (server.rows sent s, sent ++ [⟨.rows, s⟩])

def effect (s : Statement) : Session Bool := fun server sent => (server.effect sent s, sent ++ [⟨.effect, s⟩])

def count (s : Statement) : Session UInt64 := fun server sent => (server.count sent s, sent ++ [⟨.count, s⟩])

def lastId : Session (Option Int64) := fun server sent => (server.lastId sent, sent)

def effects : List Statement → Session Unit
  | [] => pure ()
  | s :: rest => do
    discard (effect s)
    effects rest

end Session

end SqlCompiler
